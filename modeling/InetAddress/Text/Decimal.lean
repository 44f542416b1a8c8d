/-!
# Decimal numbers

Octets of a dotted quad, zones and network lengths are all rows of ASCII digits. Reading allows
leading zeros and has no bound of its own, so each caller states its limit on the number and not
on the text. Writing uses no leading zeros, and `read?_write` says that it loses nothing.
-/

namespace InetAddress.Decimal

/-- The number written by a row of at least one ASCII digit. -/
def read? (text : List Char) : Option Nat :=
  if text ≠ [] ∧ text.all Char.isDigit then some (Nat.ofDigitChars 10 text 0) else none

/-- The digits of a number, without leading zeros. -/
def write (number : Nat) : List Char :=
  Nat.toDigits 10 number

@[simp] theorem read?_nil : read? [] = none := rfl

theorem read?_eq_some_iff {text : List Char} {number : Nat} :
    read? text = some number ↔
      text ≠ [] ∧ (∀ c ∈ text, c.isDigit) ∧ Nat.ofDigitChars 10 text 0 = number := by
  simp [read?, and_assoc]

theorem write_ne_nil (number : Nat) : write number ≠ [] :=
  Nat.toDigits_ne_nil

theorem isDigit_of_mem_write {number : Nat} {c : Char} (hc : c ∈ write number) : c.isDigit :=
  Nat.isDigit_of_mem_toDigits (by decide) (by decide) hc

/-- Reading undoes writing. -/
@[simp] theorem read?_write (number : Nat) : read? (write number) = some number :=
  read?_eq_some_iff.mpr
    ⟨write_ne_nil number, fun _ hc => isDigit_of_mem_write hc, Nat.ofDigitChars_ten_toDigits⟩

end InetAddress.Decimal
