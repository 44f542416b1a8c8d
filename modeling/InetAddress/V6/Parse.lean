import InetAddress.V6.Literal
import InetAddress.Reading

/-!
# IPv6 addresses from the outside

A text is too short or it is a host, once a pair of brackets around the whole of it is gone. A
host with a NUL is turned down before it is looked at, so it leaves no event.
-/

namespace InetAddress.V6

/-- Takes off a pair of brackets, if both are there. -/
def unbracket : List Char → List Char
  | '[' :: rest => if rest.getLast? = some ']' then rest.dropLast else '[' :: rest
  | text => text

@[simp] theorem unbracket_bracketed (text : List Char) :
    unbracket ('[' :: (text ++ [']'])) = text := by
  simp [unbracket]

/-- Reads an address, with the event that this leaves. -/
def read (text : String) : Reading V6 :=
  if text.utf8ByteSize < 2 then
    .silent (.error (.tooShort text))
  else
    let host := unbracket text.toList
    if '\x00' ∈ host then
      .silent (.error (.notV6 (String.ofList host)))
    else
      match ofHost? host with
      | some a => ⟨.ok a, [.accepted (String.ofList host) a.zone]⟩
      | none => ⟨.error (.notV6 (String.ofList host)), [.rejected (String.ofList host)]⟩

/-- Reads an address, or says why the text is none. -/
def parse (text : String) : Except Error V6 :=
  (read text).result

/-- Whether a text is an address. -/
def accepts (text : String) : Bool :=
  (parse text).isOk

/-- The address with the given octets, of which there must be sixteen, and no zone. -/
def ofBytes (octets : List UInt8) : Except Error V6 :=
  match Octets.ofList? octets with
  | some x => .ok (ofOctets x)
  | none => .error (.v6Size octets.length)

end InetAddress.V6
