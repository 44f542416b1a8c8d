import InetAddress.Octets.Mask
import InetAddress.Octets.Value
import Mathlib.Algebra.Order.Ring.Nat
import Mathlib.Order.Compare

/-!
# Masks and order, read off the numbers of rows

A mask rounds the number of a row down to a multiple of a power of two (`value_mask`).

Rows of octets are compared octet by octet, and the first octets that differ decide.  Of
two numbers in base 256 with equally many digits the same digits decide: whatever comes
after them is less than one of their units (`spell_lt`, `compare_digit`).  So a row comes
before another just when its number is the smaller one (`compare_eq_compare_value`).
-/

namespace InetAddress.Octets

variable {n m : Nat}

/-! ## The last octets count for less than one unit of those before them -/

theorem spell_lt (octets : List UInt8) : spell octets < 2 ^ (8 * octets.length) := by
  have hnone := spell_shiftRight octets
  rw [Nat.shiftRight_eq_div_pow] at hnone
  exact Nat.lt_of_div_eq_zero (Nat.two_pow_pos _) hnone

theorem value_lt (x : Octets n) : x.value < 2 ^ (8 * n) := by
  simpa [value] using spell_lt x.toList

/-! ## Masks -/

/-- A mask rounds the number of a row down to a multiple of a power of two. -/
theorem value_mask (x : Octets n) (length : Nat) :
    (x.mask length).value = x.value / 2 ^ (8 * n - length) * 2 ^ (8 * n - length) := by
  refine Nat.eq_of_testBit_eq fun j => ?_
  rw [Nat.testBit_mul_two_pow, Nat.testBit_div_two_pow]
  by_cases hj : j < 8 * n
  · obtain ⟨i, hi, rfl⟩ : ∃ i, i < 8 * n ∧ j = 8 * n - 1 - i :=
      ⟨8 * n - 1 - j, by omega, by omega⟩
    rw [testBit_value hi, bit_mask]
    by_cases hlength : i < length
    · have hkept : 8 * n - length ≤ 8 * n - 1 - i := by omega
      rw [Nat.sub_add_cancel hkept, testBit_value hi, decide_eq_true hlength, decide_eq_true hkept,
        Bool.and_true, Bool.true_and]
    · have hcleared : ¬ 8 * n - length ≤ 8 * n - 1 - i := by omega
      rw [decide_eq_false hlength, decide_eq_false hcleared, Bool.and_false, Bool.false_and]
  · -- there are no digits beyond the row
    have hnone : ∀ y : Octets n, ∀ k, 8 * n ≤ k → y.value.testBit k = false := fun y k hk =>
      Nat.testBit_lt_two_pow (Nat.lt_of_lt_of_le y.value_lt (Nat.pow_le_pow_right (by decide) hk))
    rw [hnone _ j (by omega), hnone x _ (by omega), Bool.and_false]

/-- Rows that are equal under a mask have numbers that are equal after division. -/
theorem mask_eq_mask_iff_value {x y : Octets n} {length : Nat} :
    x.mask length = y.mask length ↔
      x.value / 2 ^ (8 * n - length) = y.value / 2 ^ (8 * n - length) := by
  rw [← value_inj, value_mask, value_mask, Nat.mul_left_inj (Nat.two_pow_pos _).ne']

/-! ## Order -/

/-- What is told apart by a number and ordered by it is compared as the numbers are. -/
theorem compare_eq_compare_number {α : Type} [Ord α] [LE α] [LT α] [Std.LawfulOrderOrd α]
    [Std.LawfulOrderLT α] [Std.LawfulEqOrd α] {number : α → Nat}
    (hlt : ∀ x y, number x < number y → x < y) (heq : ∀ x y, number x = number y → x = y)
    (x y : α) : compare x y = compare (number x) (number y) := by
  rcases Nat.lt_trichotomy (number x) (number y) with h | h | h
  · rw [Nat.compare_eq_lt.mpr h, Std.compare_eq_lt]
    exact hlt x y h
  · rw [Nat.compare_eq_eq.mpr h, Std.compare_eq_iff_eq]
    exact heq x y h
  · rw [Nat.compare_eq_gt.mpr h, Std.compare_eq_gt]
    exact hlt y x h

theorem compare_toNat (x y : UInt8) : compare x y = compare x.toNat y.toNat :=
  compare_eq_compare_number (fun _ _ => UInt8.lt_iff_toNat_lt.mpr)
    (fun _ _ => UInt8.toNat_inj.mp) x y

/-- The leading digits decide, and where they are equal the rest does. -/
theorem compare_digit {base x y r s : Nat} (hr : r < base) (hs : s < base) :
    compare (x * base + r) (y * base + s) = (compare x y).then (compare r s) := by
  -- a smaller digit cannot be made up for by what comes after it
  have hless : ∀ {x y r s : Nat}, r < base → x < y → x * base + r < y * base + s := by
    intro x y r s hr hxy
    calc x * base + r
        < (x + 1) * base := by rw [Nat.add_mul, Nat.one_mul]; omega
      _ ≤ y * base := Nat.mul_le_mul_right base hxy
      _ ≤ y * base + s := Nat.le_add_right _ _
  rcases Nat.lt_trichotomy x y with hlt | rfl | hgt
  · rw [Nat.compare_eq_lt.mpr (hless hr hlt), Nat.compare_eq_lt.mpr hlt]
    rfl
  · rw [Nat.compare_eq_eq.mpr (Eq.refl x), Nat.compare_eq_ite_lt, Nat.compare_eq_ite_lt]
    simp only [Nat.add_lt_add_iff_left]
    rfl
  · rw [Nat.compare_eq_gt.mpr (hless hs hgt), Nat.compare_eq_gt.mpr hgt]
    rfl

theorem compare_spell {xs ys : List UInt8} (h : xs.length = ys.length) :
    compare xs ys = compare (spell xs) (spell ys) := by
  induction xs generalizing ys with
  | nil =>
      obtain rfl := List.length_eq_zero_iff.mp h.symm
      rfl
  | cons x xs ih =>
      obtain _ | ⟨y, ys⟩ := ys
      · cases h
      have hrest : xs.length = ys.length := Nat.succ_inj.mp h
      have hys := spell_lt ys
      rw [← hrest] at hys
      rw [List.compare_cons_cons, ih hrest, compare_toNat, spell, spell, ← hrest,
        Nat.shiftLeft_eq, Nat.shiftLeft_eq, compare_digit (spell_lt xs) hys]

/-- A row comes before another just when its number is the smaller one. -/
theorem compare_eq_compare_value (x y : Octets n) : compare x y = compare x.value y.value := by
  rw [Vector.compare_eq_compare_toList]
  exact compare_spell (by simp)

theorem compare_append_left (x : Octets n) (y z : Octets m) :
    compare (x ++ y) (x ++ z) = compare y z := by
  have hlists : ∀ xs ys zs : List UInt8, compare (xs ++ ys) (xs ++ zs) = compare ys zs := by
    intro xs ys zs
    induction xs with
    | nil => rfl
    | cons x xs ih =>
        rw [List.cons_append, List.cons_append, List.compare_cons_cons, Std.compare_self, ih]
        rfl
  rw [Vector.compare_eq_compare_toList, Vector.compare_eq_compare_toList, Vector.toList_append,
    Vector.toList_append]
  exact hlists x.toList y.toList z.toList

end InetAddress.Octets
