import InetAddress.Proofs.Text.Derivation

/-!
# The groups of an address

A group is two octets, so sixteen bits.  What the short form of an address looks like
depends on which groups are zero, and what is asked of an address is asked of its bits;
`getElem?_groups_eq_iff` goes from the one to the other.

A group is written with as few digits as there are: no zero is in front of another
digit, and no digit is a capital (`shortGroup_write`).
-/

namespace InetAddress.V6.Grammar

variable {x : Octets 16} {k count number group : Nat} {c : Char} {piece : List Char}

/-! ## Groups as bits -/

theorem getElem?_groups (x : Octets 16) (hk : k < 8) : (groups x.toList)[k]? =
    some (256 * (x.octet (2 * k)).toNat + (x.octet (2 * k + 1)).toNat) := by
  have hlength : x.toList.length = 16 := Vector.length_toList
  have hpair : x.toList.drop (2 * k) =
      x.octet (2 * k) :: x.octet (2 * k + 1) :: x.toList.drop (2 * k + 2) := by
    rw [List.drop_eq_getElem_cons (by omega), List.drop_eq_getElem_cons (by omega),
      Octets.octet_eq_getElem (by omega), Octets.octet_eq_getElem (by omega),
      Vector.getElem_toList, Vector.getElem_toList]
  calc (groups x.toList)[k]?
      _ = (groups (x.toList.drop (2 * k)))[0]? := by
          rw [groups_drop, List.getElem?_drop, Nat.add_zero]
      _ = some (256 * (x.octet (2 * k)).toNat + (x.octet (2 * k + 1)).toNat) := by
          rw [hpair]
          rfl

/-- Sixteen bits in a row are the bits of a group. -/
theorem bit_eq_testBit (h : (groups x.toList)[k]? = some group) (hk : k < 8) {r : Nat}
    (hr : r < 16) : x.bit (16 * k + r) = group.testBit (15 - r) := by
  rw [getElem?_groups x hk, Option.some.injEq] at h
  have hsplit := Nat.testBit_two_pow_mul_add (x.octet (2 * k)).toNat
    (x.octet (2 * k + 1)).toNat_lt (15 - r)
  rw [← h, hsplit, Octets.bit]
  by_cases hhigh : r < 8
  · -- the more significant octet
    rw [if_neg (by omega), show (16 * k + r) / 8 = 2 * k by omega,
      show (16 * k + r) % 8 = r by omega, show 15 - r - 8 = 7 - r by omega]
  · rw [if_pos (by omega), show (16 * k + r) / 8 = 2 * k + 1 by omega,
      show (16 * k + r) % 8 = r - 8 by omega, show 7 - (r - 8) = 15 - r by omega]

theorem getElem?_groups_eq_iff (hk : k < 8) (hgroup : group < 65536) :
    (groups x.toList)[k]? = some group ↔
      ∀ i, 16 * k ≤ i → i < 16 * k + 16 → x.bit i = group.testBit (15 - (i - 16 * k)) := by
  constructor
  · intro h i hfirst hlast
    have hbit := bit_eq_testBit h hk (show i - 16 * k < 16 by omega)
    rwa [Nat.add_sub_cancel' hfirst] at hbit
  · intro h
    have hother := getElem?_groups x hk
    generalize 256 * (x.octet (2 * k)).toNat + (x.octet (2 * k + 1)).toNat = other at hother
    have hlt : other < 65536 := lt_of_mem_groups (List.mem_of_getElem? hother)
    rw [hother, Option.some.injEq]
    refine Nat.eq_of_testBit_eq fun j => ?_
    by_cases hj : j < 16
    · have hbit := bit_eq_testBit hother hk (show 15 - j < 16 by omega)
      rw [h _ (by omega) (by omega)] at hbit
      rw [show j = 15 - (15 - j) by omega, ← hbit, Nat.add_sub_cancel_left]
    · -- neither number has a bit there
      have hpow : 2 ^ 16 ≤ 2 ^ j := Nat.pow_le_pow_right Nat.two_pos (Nat.le_of_not_lt hj)
      rw [Nat.testBit_lt_two_pow (by omega), Nat.testBit_lt_two_pow (by omega)]

theorem getElem?_groups_eq_zero_iff (hk : k < 8) : (groups x.toList)[k]? = some 0 ↔
    ∀ i, 16 * k ≤ i → i < 16 * k + 16 → x.bit i = false := by
  simp only [getElem?_groups_eq_iff hk (by decide : 0 < 65536), Nat.zero_testBit]

/-- The groups in front are zero when their bits are clear. -/
theorem isZeroRun_groups_iff (hcount : count ≤ 8) :
    IsZeroRun (groups x.toList) 0 count ↔ ∀ i < 16 * count, x.bit i = false := by
  constructor
  · intro h i hi
    have hgroup := h (i / 16) (by omega)
    rw [Nat.zero_add] at hgroup
    exact (getElem?_groups_eq_zero_iff (by omega)).mp hgroup i (by omega) (by omega)
  · intro h k hk
    rw [Nat.zero_add, getElem?_groups_eq_zero_iff (by omega)]
    intro i _ hlast
    exact h i (by omega)

/-! ## The digits of a group -/

/-- A group without leading zeros and capitals. -/
def ShortGroup (piece : List Char) (group : Nat) : Prop :=
  Group piece group ∧ (piece.head? = some '0' → piece = ['0']) ∧ ∀ c ∈ piece, c ∈ lowerDigits

theorem digitChar_mem_lowerDigits {digit : Nat} (h : digit < 16) :
    Nat.digitChar digit ∈ lowerDigits := by
  have hall : ∀ digit < 16, Nat.digitChar digit ∈ lowerDigits := by decide
  exact hall digit h

theorem digitChar_eq_zero {digit : Nat} (h : digit < 16) (hzero : Nat.digitChar digit = '0') :
    digit = 0 := by
  have hall : ∀ digit < 16, Nat.digitChar digit = '0' → digit = 0 := by decide
  exact hall digit h hzero

theorem mem_lowerDigits_of_mem_write (h : c ∈ Hex.write number) : c ∈ lowerDigits := by
  induction number using Nat.strongRecOn with
  | ind number ih =>
      unfold Hex.write at h ih
      by_cases hlt : number < 16
      · rw [Nat.toDigits_of_lt_base hlt, List.mem_singleton] at h
        exact h ▸ digitChar_mem_lowerDigits hlt
      · rw [Nat.toDigits_of_base_le (by decide) (by omega), List.mem_append,
          List.mem_singleton] at h
        rcases h with h | rfl
        · exact ih (number / 16) (by omega) h
        · exact digitChar_mem_lowerDigits (Nat.mod_lt number (by decide))

/-- Of all numbers only zero is written with a zero in front. -/
theorem eq_zero_of_head?_write (h : (Hex.write number).head? = some '0') : number = 0 := by
  induction number using Nat.strongRecOn with
  | ind number ih =>
      unfold Hex.write at h ih
      by_cases hlt : number < 16
      · rw [Nat.toDigits_of_lt_base hlt, List.head?_singleton, Option.some.injEq] at h
        exact digitChar_eq_zero hlt h
      · rw [Nat.toDigits_of_base_le (by decide) (by omega),
          List.head?_append_of_ne_nil _ Nat.toDigits_ne_nil] at h
        have hhigh := ih (number / 16) (by omega) h
        omega

theorem shortGroup_write (h : group < 65536) : ShortGroup (Hex.write group) group := by
  refine ⟨group_write h, fun hhead => ?_, fun c => mem_lowerDigits_of_mem_write⟩
  rw [eq_zero_of_head?_write hhead]
  rfl

end InetAddress.V6.Grammar
