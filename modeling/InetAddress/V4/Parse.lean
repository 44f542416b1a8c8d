import InetAddress.V4.Text
import InetAddress.Error

/-!
# IPv4 addresses from the outside
-/

namespace InetAddress.V4

/-- Reads a dotted quad, or says that the text is none. -/
def parse (text : String) : Except Error V4 :=
  match ofText? text with
  | some a => .ok a
  | none => .error (.notV4 text)

/-- The address with the given octets, of which there must be four. -/
def ofBytes (octets : List UInt8) : Except Error V4 :=
  match Octets.ofList? octets with
  | some x => .ok ⟨x⟩
  | none => .error (.v4Size octets.length)

theorem parse_eq_ok_iff {text : String} {a : V4} : parse text = .ok a ↔ ofText? text = some a := by
  unfold parse
  cases ofText? text <;> simp

end InetAddress.V4
