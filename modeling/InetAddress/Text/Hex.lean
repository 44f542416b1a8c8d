/-!
# Hexadecimal numbers

Digits are read in either case and written in lower case. Two ways of writing are needed: the
shortest, for the groups of a compressed address, and two digits to the octet, for everything
whose width is fixed.
-/

namespace InetAddress.Hex

/-- The value of a hexadecimal digit of either case. -/
def digit? (c : Char) : Option Nat :=
  if c.isDigit then some (c.toNat - '0'.toNat)
  else if 'a' ≤ c ∧ c ≤ 'f' then some (c.toNat - 'a'.toNat + 10)
  else if 'A' ≤ c ∧ c ≤ 'F' then some (c.toNat - 'A'.toNat + 10)
  else none

/-- The number that a row of digits spells in base 16. -/
def ofDigits (digits : List Nat) : Nat :=
  digits.foldl (fun acc digit => 16 * acc + digit) 0

/-- The number written by a row of hexadecimal digits; callers bound the length of the row. -/
def read? (text : List Char) : Option Nat :=
  (text.mapM digit?).map ofDigits

/-- The digits of a number, without leading zeros. -/
def write (number : Nat) : List Char :=
  Nat.toDigits 16 number

/-- The two digits of an octet. -/
def writeOctet (octet : UInt8) : List Char :=
  [Nat.digitChar (octet.toNat / 16), Nat.digitChar (octet.toNat % 16)]

/-- Two digits to the octet, in order. -/
def encode (octets : List UInt8) : List Char :=
  octets.flatMap writeOctet

private theorem digit?_digitChar_fin : ∀ d : Fin 16, digit? (Nat.digitChar d) = some d.val := by
  decide

theorem digit?_digitChar {d : Nat} (h : d < 16) : digit? (Nat.digitChar d) = some d :=
  digit?_digitChar_fin ⟨d, h⟩

theorem ofDigits_append_singleton (digits : List Nat) (d : Nat) :
    ofDigits (digits ++ [d]) = 16 * ofDigits digits + d := by
  simp [ofDigits]

@[simp] theorem encode_nil : encode [] = [] := rfl

@[simp] theorem encode_cons (octet : UInt8) (octets : List UInt8) :
    encode (octet :: octets) = writeOctet octet ++ encode octets := rfl

@[simp] theorem length_encode (octets : List UInt8) :
    (encode octets).length = 2 * octets.length := by
  induction octets with
  | nil => rfl
  | cons octet octets ih =>
      rw [encode_cons, List.length_append, ih, List.length_cons]
      simp only [writeOctet, List.length_cons, List.length_nil]
      omega

theorem read?_append_digitChar {text : List Char} {number d : Nat}
    (htext : read? text = some number) (hd : d < 16) :
    read? (text ++ [Nat.digitChar d]) = some (16 * number + d) := by
  obtain ⟨digits, hdigits, rfl⟩ := Option.map_eq_some_iff.mp htext
  simp [read?, hdigits, digit?_digitChar hd, ofDigits_append_singleton]

/-- Reading undoes writing. -/
@[simp] theorem read?_write (number : Nat) : read? (write number) = some number := by
  induction number using Nat.strongRecOn with
  | ind number ih =>
      by_cases hlt : number < 16
      · rw [write, Nat.toDigits_of_lt_base hlt]
        simp [read?, digit?_digitChar hlt, ofDigits]
      · rw [write, Nat.toDigits_of_base_le (by decide) (by omega)]
        have hhigh := ih (number / 16) (by omega)
        rw [write] at hhigh
        rw [read?_append_digitChar hhigh (Nat.mod_lt _ (by decide))]
        simp only [Option.some.injEq]
        omega

/-- An octet's two digits spell it. -/
@[simp] theorem read?_writeOctet (octet : UInt8) : read? (writeOctet octet) = some octet.toNat := by
  have hlt := octet.toNat_lt
  have hhigh : read? [Nat.digitChar (octet.toNat / 16)] = some (octet.toNat / 16) := by
    simp [read?, digit?_digitChar (show octet.toNat / 16 < 16 by omega), ofDigits]
  have := read?_append_digitChar hhigh (Nat.mod_lt octet.toNat (show 0 < 16 by decide))
  rw [show writeOctet octet =
    [Nat.digitChar (octet.toNat / 16)] ++ [Nat.digitChar (octet.toNat % 16)] from rfl, this]
  simp only [Option.some.injEq]
  omega

end InetAddress.Hex
