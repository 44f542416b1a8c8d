import InetAddress.Endpoint
import InetAddress.V4.Text
import InetAddress.Text.Hex

/-!
# Reading IPv6 literals

A literal is eight groups of one to four hexadecimal digits with colons between them. A single
gap, `::`, may stand for one group or more, and a dotted quad for the last two groups. The text is
cut at the first gap, if there is one, and each side at its colons: a second gap, a lone colon and
a quad in the wrong place all leave a piece that is no group.

A zone may follow, after a percent sign, as a decimal number that fits a 32-bit word. A literal
with its zone denotes an endpoint, and the address is that of the endpoint.
-/

namespace InetAddress.V6

/-- The two octets of a group of one to four hexadecimal digits. -/
def readGroup? (piece : List Char) : Option (List UInt8) :=
  if 1 ≤ piece.length ∧ piece.length ≤ 4 then
    (Hex.read? piece).map fun group => [UInt8.ofNat (group / 256), UInt8.ofNat (group % 256)]
  else none

/-- The four octets of a dotted quad. -/
def readQuad? (piece : List Char) : Option (List UInt8) :=
  (Quad.read? Quad.readPlainOctet? piece).map Vector.toList

/-- The octets of pieces that are all groups. -/
def readGroups? (pieces : List (List Char)) : Option (List UInt8) :=
  (pieces.mapM readGroup?).map List.flatten

/-- The octets of pieces that are groups, of which the last may be a dotted quad instead. -/
def readRow? : List (List Char) → Option (List UInt8)
  | [] => none
  | [last] => (readGroup? last).or (readQuad? last)
  | piece :: rest =>
      match readGroup? piece, readRow? rest with
      | some group, some octets => some (group ++ octets)
      | _, _ => none

/-- What stands before the first `::` and what stands after it. -/
def splitGap : List Char → Option (List Char × List Char)
  | ':' :: ':' :: rest => some ([], rest)
  | c :: rest => (splitGap rest).map fun sides => (c :: sides.1, sides.2)
  | [] => none

theorem eq_append_of_splitGap {text before after : List Char}
    (h : splitGap text = some (before, after)) : text = before ++ ':' :: ':' :: after := by
  fun_induction splitGap text generalizing before with
  | case1 rest =>
      simp only [Option.some.injEq, Prod.mk.injEq] at h
      rw [← h.1, ← h.2]
      rfl
  | case2 c rest _ ih =>
      obtain ⟨sides, hsides, hpair⟩ := Option.map_eq_some_iff.mp h
      simp only [Prod.mk.injEq] at hpair
      have hrest : splitGap rest = some (sides.1, after) := by rw [hsides, ← hpair.2]
      rw [← hpair.1, ih hrest]
      rfl
  | case3 => simp at h

/-- The octets on one side of a gap, where nothing at all may stand. -/
def readSide? (row? : List (List Char) → Option (List UInt8)) (side : List Char) :
    Option (List UInt8) :=
  if side = [] then some [] else row? (side.splitOn ':')

/-- Two sides with zero octets between them, at least one group's worth. -/
def fill? (before after : List UInt8) : Option (Octets 16) :=
  if before.length + after.length ≤ 14 then
    Octets.ofList?
      (before ++ List.replicate (16 - (before.length + after.length)) 0 ++ after)
  else none

/-- The octets that a literal without a zone denotes. -/
def readLiteral? (text : List Char) : Option (Octets 16) :=
  match splitGap text with
  | none => (readRow? (text.splitOn ':')).bind Octets.ofList?
  | some (left, right) =>
      match readSide? readGroups? left, readSide? readRow? right with
      | some before, some after => fill? before after
      | _, _ => none

/-- The zone in what follows a literal: nothing, or a percent sign and a decimal number. -/
def readZone? : List Char → Option UInt32
  | [] => some 0
  | _ :: digits =>
      match Decimal.read? digits with
      | some number => if number < UInt32.size then some (UInt32.ofNat number) else none
      | none => none

/-- The endpoint that a host, a literal with its zone if it has one, denotes. -/
def resolve? (text : List Char) : Option Endpoint :=
  match readLiteral? (text.takeWhile (· != '%')), readZone? (text.dropWhile (· != '%')) with
  | some octets, some zone => some ⟨octets, zone, 0, 0⟩
  | _, _ => none

/-- The address that a host denotes, with as much of the zone as an address keeps. -/
def ofHost? (text : List Char) : Option V6 :=
  (resolve? text).map ofEndpoint

end InetAddress.V6
