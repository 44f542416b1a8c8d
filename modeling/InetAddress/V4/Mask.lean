import InetAddress.Octets.Mask
import InetAddress.V4.Basic
import InetAddress.Error

/-!
# Masked IPv4 addresses

Four octets fit into a word, and the mask of an IPv4 address is one conjunction of words. It is
the mask of the octets all the same (`mask_eq_ok`).
-/

namespace InetAddress.V4

/-- The word with its first `length` bits set. A shift by all 32 bits is not what the machine's
shift does, so it is written out. -/
def wordMask (length : Nat) : UInt32 :=
  if length = 0 then 0 else 0xffffffff <<< UInt32.ofNat (32 - length)

/-- Keeps the first `length` bits, of 32 at most, and clears the rest. -/
def mask (a : V4) (length : Nat) : Except Error V4 :=
  if length ≤ 32 then .ok (ofUInt32 (a.toUInt32 &&& wordMask length))
  else .error (.tooLong length 32)

theorem testBit_wordMask {length j : Nat} (hj : j < 32) :
    (wordMask length).toNat.testBit j = decide (32 - length ≤ j) := by
  unfold wordMask
  split
  · next h =>
      subst h
      rw [decide_eq_false (by omega)]
      exact Nat.zero_testBit j
  · next h =>
      have hshift : (UInt32.ofNat (32 - length)).toNat % 32 = 32 - length := by
        rw [UInt32.toNat_ofNat', Nat.mod_mod_of_dvd _ (by decide), Nat.mod_eq_of_lt (by omega)]
      have hones : (0xffffffff : UInt32).toNat = 2 ^ 32 - 1 := rfl
      rw [UInt32.toNat_shiftLeft, hshift, hones, Nat.testBit_mod_two_pow, Nat.testBit_shiftLeft,
        Nat.testBit_two_pow_sub_one, decide_eq_true hj, Bool.true_and,
        decide_eq_true (show j - (32 - length) < 32 by omega), Bool.and_true]

/-- The conjunction with a word clears the octets that the mask clears, bit by bit. -/
theorem ofUInt32_and_wordMask {a : V4} {length : Nat} (h : length ≤ 32) :
    ofUInt32 (a.toUInt32 &&& wordMask length) = ⟨a.octets.mask length⟩ := by
  rw [ofUInt32]
  refine congrArg V4.mk (Octets.ext_of_bit fun i hi => ?_)
  have hkept : (32 - length ≤ 8 * 4 - 1 - i) ↔ i < length := by omega
  rw [Octets.bit_mask, Octets.bit_ofValue hi, UInt32.toNat_and, Nat.testBit_and, toNat_toUInt32,
    Octets.testBit_value hi, testBit_wordMask (by omega)]
  simp only [hkept]

theorem mask_eq_ok {a : V4} {length : Nat} (h : length ≤ 32) :
    a.mask length = .ok ⟨a.octets.mask length⟩ := by
  rw [mask, if_pos h, ofUInt32_and_wordMask h]

end InetAddress.V4
