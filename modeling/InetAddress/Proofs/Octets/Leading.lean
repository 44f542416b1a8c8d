import InetAddress.Octets.Mask
import Mathlib.Logic.Basic

/-!
# Masks octet by octet

A mask keeps whole octets first, then part of one, and clears the others
(`octet_mask`).  So rows that are equal under a mask of length `8 * whole + rest` have
`whole` octets in common and the first `rest` bits of the octet after them, and
conversely (`mask_eq_mask_iff_octet`).  Tests on single octets and on leading octets
are special cases of that.
-/

namespace InetAddress.Octets

variable {n m : Nat} {x y : Octets n}

/-! ## Rows by octets -/

/-- Rows with the same octets are the same row. -/
theorem ext_of_octet (h : ∀ k < n, x.octet k = y.octet k) : x = y := by
  refine Vector.ext fun k hk => ?_
  rw [← octet_eq_getElem hk, ← octet_eq_getElem hk]
  exact h k hk

theorem octet_append (x : Octets n) (y : Octets m) (k : Nat) :
    octet (x ++ y) k = if k < n then x.octet k else y.octet (k - n) := by
  unfold octet
  rw [Vector.getElem?_append]
  split <;> rfl

theorem take_toList_eq_iff {count : Nat} (h : count ≤ n) :
    x.toList.take count = y.toList.take count ↔ ∀ k < count, x.octet k = y.octet k := by
  constructor
  · intro htake k hk
    have hplace := congrArg (fun octets => octets[k]?.getD 0) htake
    simpa [hk, octet] using hplace
  · intro hoctet
    refine List.ext_getElem (by simp) fun k hk _ => ?_
    have hcount : k < count := by simp at hk; omega
    have hplace := hoctet k hcount
    rw [octet_eq_getElem (by omega), octet_eq_getElem (by omega)] at hplace
    simpa using hplace

/-! ## Octets under a mask -/

@[simp] theorem leadingOnes_zero : leadingOnes 0 = 0 := rfl

theorem and_leadingOnes_of_le {count : Nat} (h : 8 ≤ count) (octet : UInt8) :
    octet &&& leadingOnes count = octet := by
  unfold leadingOnes
  rw [Nat.sub_eq_zero_of_le h]
  exact UInt8.and_neg_one

theorem octet_mask (x : Octets n) (length k : Nat) :
    (x.mask length).octet k = x.octet k &&& leadingOnes (length - 8 * k) := by
  rw [mask, octet_and]
  by_cases hk : k < n
  · rw [octet_eq_getElem (x := netmask length) hk, netmask, Vector.getElem_ofFn]
  · rw [octet_eq_zero (Nat.le_of_not_lt hk)]
    simp

/-- A mask that is longer than a row leaves the row and masks what follows it. -/
theorem mask_append (x : Octets n) (y : Octets m) (length : Nat) :
    mask (x ++ y) (8 * n + length) = x ++ y.mask length := by
  refine ext_of_octet fun k _ => ?_
  rw [octet_mask, octet_append, octet_append]
  split
  · rw [and_leadingOnes_of_le (by omega)]
  · rw [octet_mask, show 8 * n + length - 8 * k = length - 8 * (k - n) by omega]

/-! ## Rows that are equal under a mask -/

theorem mask_eq_mask_of_le {long short : Nat} (h : x.mask long = y.mask long) (hle : short ≤ long) :
    x.mask short = y.mask short := by
  rw [← Nat.min_eq_right hle, ← mask_mask, h, mask_mask]

/-- The octets that a mask keeps are equal, and so is what it keeps of the next one. -/
theorem mask_eq_mask_iff_octet (whole : Nat) {rest : Nat} (hrest : rest ≤ 8) :
    x.mask (8 * whole + rest) = y.mask (8 * whole + rest) ↔
      (∀ k < whole, x.octet k = y.octet k) ∧
        x.octet whole &&& leadingOnes rest = y.octet whole &&& leadingOnes rest := by
  constructor
  · intro h
    have hoctet : ∀ k, x.octet k &&& leadingOnes (8 * whole + rest - 8 * k) =
        y.octet k &&& leadingOnes (8 * whole + rest - 8 * k) := by
      intro k
      rw [← octet_mask, ← octet_mask, h]
    refine ⟨fun k hk => ?_, ?_⟩
    · have hk := hoctet k
      rwa [and_leadingOnes_of_le (by omega), and_leadingOnes_of_le (by omega)] at hk
    · simpa using hoctet whole
  · rintro ⟨hwhole, hpart⟩
    refine ext_of_octet fun k _ => ?_
    rw [octet_mask, octet_mask]
    -- octets before `whole` are kept, the one at `whole` in part, and those after it cleared
    rcases Nat.lt_trichotomy k whole with hlt | rfl | hgt
    · rw [hwhole k hlt]
    · rwa [Nat.add_sub_cancel_left]
    · rw [show 8 * whole + rest - 8 * k = 0 by omega, leadingOnes_zero, UInt8.and_zero,
        UInt8.and_zero]

/-- A mask of whole octets keeps leading octets. -/
theorem mask_eq_mask_iff_take {count : Nat} (h : count ≤ n) :
    x.mask (8 * count) = y.mask (8 * count) ↔ x.toList.take count = y.toList.take count := by
  have hoctet := mask_eq_mask_iff_octet (x := x) (y := y) count (Nat.zero_le 8)
  rw [Nat.add_zero] at hoctet
  rw [hoctet, take_toList_eq_iff h]
  simp

/-- A mask within the first octet. -/
theorem mask_eq_mask_iff_first {rest : Nat} (hrest : rest ≤ 8) :
    x.mask rest = y.mask rest ↔
      x.octet 0 &&& leadingOnes rest = y.octet 0 &&& leadingOnes rest := by
  have hoctet := mask_eq_mask_iff_octet (x := x) (y := y) 0 hrest
  simpa using hoctet

/-- A mask that ends within the second octet. -/
theorem mask_eq_mask_iff_second {rest : Nat} (hrest : rest ≤ 8) :
    x.mask (8 + rest) = y.mask (8 + rest) ↔ x.octet 0 = y.octet 0 ∧
      x.octet 1 &&& leadingOnes rest = y.octet 1 &&& leadingOnes rest := by
  have hoctet := mask_eq_mask_iff_octet (x := x) (y := y) 1 hrest
  simpa using hoctet

end InetAddress.Octets
