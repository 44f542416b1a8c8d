import InetAddress.Octets.Basic

/-!
# Masks

A mask of a given length keeps that many leading bits of a row and clears the others
(`bit_mask`). Masks of two lengths, one after the other, act as the shorter of them
(`mask_mask`).
-/

namespace InetAddress.Octets

variable {n : Nat}

/-- The bits set in both rows. -/
def and (x y : Octets n) : Octets n :=
  Vector.zipWith (· &&& ·) x y

@[simp] theorem octet_and (x y : Octets n) (k : Nat) :
    (x.and y).octet k = x.octet k &&& y.octet k := by
  unfold and octet
  rw [Vector.getElem?_zipWith]
  by_cases h : k < n
  · simp [Vector.getElem?_eq_getElem h]
  · simp [Vector.getElem?_eq_none (Nat.le_of_not_lt h)]

@[simp] theorem bit_and (x y : Octets n) (i : Nat) :
    (x.and y).bit i = (x.bit i && y.bit i) := by
  rw [bit, octet_and, UInt8.toNat_and, Nat.testBit_and]
  rfl

/-- The octet whose first `count` bits are set, all eight if `count` is larger. -/
def leadingOnes (count : Nat) : UInt8 :=
  UInt8.ofNat (255 <<< (8 - count))

private theorem testBit_leadingOnes_fin :
    ∀ j : Fin 9, ∀ r : Fin 8,
      (leadingOnes j).toNat.testBit (7 - r) = decide (r.val < j.val) := by
  decide

theorem testBit_leadingOnes {count r : Nat} (hr : r < 8) :
    (leadingOnes count).toNat.testBit (7 - r) = decide (r < count) := by
  have hcount : leadingOnes count = leadingOnes (min 8 count) := by
    unfold leadingOnes
    rw [show 8 - count = 8 - min 8 count by omega]
  rw [hcount, testBit_leadingOnes_fin ⟨min 8 count, by omega⟩ ⟨r, hr⟩]
  simp only [decide_eq_decide]
  omega

/-- The row whose first `length` bits are set and whose other bits are clear. -/
def netmask (length : Nat) : Octets n :=
  Vector.ofFn fun k => leadingOnes (length - 8 * k)

theorem bit_netmask {length i : Nat} (h : i < 8 * n) :
    (netmask length : Octets n).bit i = decide (i < length) := by
  have hk : i / 8 < n := by omega
  rw [bit, octet_eq_getElem hk, netmask, Vector.getElem_ofFn,
    testBit_leadingOnes (Nat.mod_lt i (by decide))]
  simp only [decide_eq_decide]
  omega

/-- Keeps the first `length` bits and clears the rest. -/
def mask (x : Octets n) (length : Nat) : Octets n :=
  x.and (netmask length)

/-- A mask keeps the leading bits and clears the others. -/
theorem bit_mask (x : Octets n) (length i : Nat) :
    (x.mask length).bit i = (x.bit i && decide (i < length)) := by
  rw [mask, bit_and]
  by_cases h : i < 8 * n
  · rw [bit_netmask h]
  · simp [bit_eq_false (Nat.le_of_not_lt h)]

@[simp] theorem mask_mask (x : Octets n) (first second : Nat) :
    (x.mask first).mask second = x.mask (min first second) :=
  ext_of_bit fun i _ => by
    simp only [bit_mask, Bool.and_assoc, ← Bool.decide_and, Nat.lt_min]

theorem mask_eq_self {x : Octets n} {length : Nat} (h : 8 * n ≤ length) : x.mask length = x :=
  ext_of_bit fun i hi => by simp [bit_mask, Nat.lt_of_lt_of_le hi h]

/-- Two rows have the same masked row when their leading bits agree. -/
theorem mask_eq_mask_iff {x y : Octets n} {length : Nat} :
    x.mask length = y.mask length ↔ ∀ i < length, x.bit i = y.bit i := by
  constructor
  · intro h i hi
    have := congrArg (fun z => bit z i) h
    simpa [bit_mask, hi] using this
  · intro h
    refine ext_of_bit fun i _ => ?_
    rw [bit_mask, bit_mask]
    by_cases hi : i < length
    · rw [h i hi]
    · simp [hi]

end InetAddress.Octets
