import InetAddress.Error
import InetAddress.Text.Hex

/-!
# MAC addresses

Six octets, written as pairs of hexadecimal digits. Reading takes colons and hyphens between the
pairs, in any mixture, and digits of either case; writing uses colons and lower case.
-/

namespace InetAddress

/-- Six octets in network order. -/
structure Mac where
  octets : Octets 6
deriving DecidableEq

namespace Mac

/-- The address of all ones. -/
def broadcast : Mac :=
  ⟨#v[0xff, 0xff, 0xff, 0xff, 0xff, 0xff]⟩

/-- The address of all zeros. -/
def zero : Mac :=
  ⟨#v[0, 0, 0, 0, 0, 0]⟩

instance : Inhabited Mac := ⟨zero⟩

instance : Ord Mac where
  compare a b := compare a.octets b.octets

/-- The lowest bit of the first octet marks a group of receivers. -/
def isMulticast (a : Mac) : Bool :=
  a.octets.octet 0 &&& 0x01 != 0

/-- The next bit marks an address that was assigned locally. -/
def isLocal (a : Mac) : Bool :=
  a.octets.octet 0 &&& 0x02 != 0

/-- Colons and hyphens stand between the pairs. -/
def isSeparator (c : Char) : Bool :=
  c == ':' || c == '-'

/-- The octet of a pair of hexadecimal digits. -/
def readPair? (pair : List Char) : Option UInt8 :=
  if pair.length = 2 then (Hex.read? pair).map UInt8.ofNat else none

/-- The address that six pairs denote. -/
def ofText? (text : String) : Option Mac :=
  (((text.toList.splitOnP isSeparator).mapM readPair?).bind Octets.ofList?).map Mac.mk

/-- Six pairs with colons between them. -/
def text (a : Mac) : String :=
  String.ofList ([':'].intercalate (a.octets.toList.map Hex.writeOctet))

/-- Reads a MAC address, or says that the text is none. -/
def parse (text : String) : Except Error Mac :=
  match ofText? text with
  | some a => .ok a
  | none => .error (.notMac text)

/-- The address with the given octets, of which there must be six. -/
def ofBytes (octets : List UInt8) : Except Error Mac :=
  match Octets.ofList? octets with
  | some x => .ok ⟨x⟩
  | none => .error (.macSize octets.length)

theorem parse_eq_ok_iff {text : String} {a : Mac} :
    parse text = .ok a ↔ ofText? text = some a := by
  unfold parse
  cases ofText? text <;> simp

/-- A pair of digits spells the octet it was written for. -/
@[simp] theorem readPair?_writeOctet (octet : UInt8) :
    readPair? (Hex.writeOctet octet) = some octet := by
  rw [readPair?, if_pos (by rfl), Hex.read?_writeOctet]
  simp

end Mac

end InetAddress
