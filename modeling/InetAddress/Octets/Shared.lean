import InetAddress.Octets.Mask

/-!
# Leading bits that two rows share

Whole octets are compared first, and then the high bits of the first octet in which the rows
differ. `le_sharedBits_iff` says that the number found is the largest for which all bits before it
agree.
-/

namespace InetAddress.Octets

variable {n : Nat}

/-- The number of clear bits before the first set one; all eight if there is none. -/
def leadingZeros (octet : UInt8) : Nat :=
  if octet = 0 then 8 else 7 - octet.toNat.log2

/-- The number of leading bits on which two rows agree: whole octets first, then the high bits of
the first octet in which they differ. -/
def sharedBits : List UInt8 → List UInt8 → Nat
  | x :: xs, y :: ys => if x = y then 8 + sharedBits xs ys else leadingZeros (x ^^^ y)
  | _, _ => 0

/-- The longest stretch of leading bits that two rows share, looking at the first `xLength` bits
of the one and the first `yLength` bits of the other; all other bits are clear. -/
def common (x : Octets n) (xLength : Nat) (y : Octets n) (yLength : Nat) : Octets n × Nat :=
  let length := min (min xLength yLength) (sharedBits x.toList y.toList)
  (x.mask length, length)

theorem le_leadingZeros_iff {octet : UInt8} {m : Nat} (hm : m ≤ 8) :
    m ≤ leadingZeros octet ↔ ∀ r < m, octet.toNat.testBit (7 - r) = false := by
  have hlt := octet.toNat_lt
  have hbits : (∀ r < m, octet.toNat.testBit (7 - r) = false) ↔ octet.toNat < 2 ^ (8 - m) := by
    constructor
    · intro h
      refine Nat.lt_pow_two_of_testBit _ fun j hj => ?_
      by_cases hjlt : j < 8
      · have hbit := h (7 - j) (by omega)
        rwa [show 7 - (7 - j) = j by omega] at hbit
      · exact Nat.testBit_lt_two_pow
          (Nat.lt_of_lt_of_le hlt (Nat.pow_le_pow_right Nat.two_pos (Nat.le_of_not_lt hjlt)))
    · intro h r hr
      exact Nat.testBit_lt_two_pow
        (Nat.lt_of_lt_of_le h (Nat.pow_le_pow_right Nat.two_pos (by omega)))
  rw [hbits, leadingZeros]
  split
  · rename_i hzero
    subst hzero
    exact iff_of_true hm (Nat.two_pow_pos _)
  · rename_i hzero
    have hne : octet.toNat ≠ 0 := fun h => hzero (UInt8.toNat_inj.mp h)
    have hlog : octet.toNat.log2 < 8 := (Nat.log2_lt hne).mpr hlt
    rw [← Nat.log2_lt hne]
    omega

theorem leadingZeros_le (octet : UInt8) : leadingZeros octet ≤ 8 := by
  unfold leadingZeros
  split <;> omega

theorem sharedBits_le (xs ys : List UInt8) : sharedBits xs ys ≤ 8 * xs.length := by
  induction xs generalizing ys with
  | nil => simp [sharedBits]
  | cons x xs ih =>
      cases ys with
      | nil => simp [sharedBits]
      | cons y ys =>
          have hrest := ih ys
          have hfirst := leadingZeros_le (x ^^^ y)
          simp only [sharedBits, List.length_cons]
          split <;> omega

/-- The high bits on which two octets agree, by the octet of the bits on which they differ. -/
theorem le_leadingZeros_xor_iff {x y : UInt8} {m : Nat} :
    m ≤ leadingZeros (x ^^^ y) ↔
      m ≤ 8 ∧ ∀ r < m, x.toNat.testBit (7 - r) = y.toNat.testBit (7 - r) := by
  have hagree : ∀ r, (x ^^^ y).toNat.testBit (7 - r) = false ↔
      x.toNat.testBit (7 - r) = y.toNat.testBit (7 - r) := fun r => by
    rw [UInt8.toNat_xor, Nat.testBit_xor, bne_eq_false_iff_eq]
  constructor
  · intro h
    have hm := Nat.le_trans h (leadingZeros_le _)
    exact ⟨hm, fun r hr => (hagree r).mp ((le_leadingZeros_iff hm).mp h r hr)⟩
  · intro h
    exact (le_leadingZeros_iff h.1).mpr fun r hr => (hagree r).mpr (h.2 r hr)

/-- Lists agree on leading bits if their first octets do, as far as these go, and what follows
does. -/
theorem forall_bitAt_cons_iff {x y : UInt8} {xs ys : List UInt8} {m : Nat} :
    (∀ i < m, bitAt (x :: xs) i = bitAt (y :: ys) i) ↔
      (∀ r < min m 8, x.toNat.testBit (7 - r) = y.toNat.testBit (7 - r)) ∧
        ∀ i < m - 8, bitAt xs i = bitAt ys i := by
  constructor
  · intro h
    refine ⟨fun r hr => ?_, fun i hi => ?_⟩
    · have hbit := h r (by omega)
      rwa [bitAt_cons_of_lt x xs (by omega), bitAt_cons_of_lt y ys (by omega)] at hbit
    · have hbit := h (i + 8) (by omega)
      rwa [bitAt_cons_add, bitAt_cons_add] at hbit
  · intro h i hi
    by_cases hfirst : i < 8
    · rw [bitAt_cons_of_lt x xs hfirst, bitAt_cons_of_lt y ys hfirst]
      exact h.1 i (by omega)
    · obtain ⟨j, rfl⟩ : ∃ j, i = j + 8 := ⟨i - 8, by omega⟩
      rw [bitAt_cons_add, bitAt_cons_add]
      exact h.2 j (by omega)

private theorem le_sharedBits_list {xs ys : List UInt8} (hlength : xs.length = ys.length)
    {m : Nat} :
    m ≤ sharedBits xs ys ↔ m ≤ 8 * xs.length ∧ ∀ i < m, bitAt xs i = bitAt ys i := by
  induction xs generalizing ys m with
  | nil =>
      simp only [sharedBits, List.length_nil, Nat.mul_zero]
      exact ⟨fun h => ⟨h, fun i hi => by omega⟩, fun h => h.1⟩
  | cons x xs ih =>
      obtain _ | ⟨y, ys⟩ := ys
      · simp at hlength
      simp only [List.length_cons, Nat.add_right_cancel_iff] at hlength ⊢
      rw [forall_bitAt_cons_iff, sharedBits]
      split
      · next heq =>
          subst heq
          have hrest : m ≤ 8 + sharedBits xs ys ↔ m - 8 ≤ sharedBits xs ys := by omega
          rw [hrest, ih hlength]
          exact and_congr (by omega) ⟨fun h => ⟨fun _ _ => rfl, h⟩, fun h => h.2⟩
      · next hne =>
          rw [le_leadingZeros_xor_iff]
          constructor
          · intro h
            exact ⟨by omega, fun r hr => h.2 r (by omega), fun i hi => by omega⟩
          · intro h
            -- octets that agree on all eight bits do not differ
            have hm : m ≤ 8 := Nat.le_of_not_lt fun hlarge =>
              hne (octet_ext fun r hr => h.2.1 r (by omega))
            exact ⟨hm, fun r hr => h.2.1 r (by omega)⟩

/-- The shared bits are as many as all bits before which two rows agree. -/
theorem le_sharedBits_iff {x y : Octets n} {m : Nat} :
    m ≤ sharedBits x.toList y.toList ↔ m ≤ 8 * n ∧ ∀ i < m, x.bit i = y.bit i := by
  rw [le_sharedBits_list (by simp)]
  simp [bitAt_toList]

theorem le_common_iff {x y : Octets n} {xLength yLength m : Nat} :
    m ≤ (common x xLength y yLength).2 ↔
      m ≤ xLength ∧ m ≤ yLength ∧ m ≤ 8 * n ∧ ∀ i < m, x.bit i = y.bit i := by
  simp only [common, Nat.le_min, le_sharedBits_iff, and_assoc]

theorem bit_eq_of_lt_common {x y : Octets n} {xLength yLength i : Nat}
    (h : i < (common x xLength y yLength).2) : x.bit i = y.bit i :=
  (le_sharedBits_iff.mp (Nat.min_le_right _ _)).2 i h

/-- Common bits are taken from either row. -/
theorem common_comm (x : Octets n) (xLength : Nat) (y : Octets n) (yLength : Nat) :
    common x xLength y yLength = common y yLength x xLength := by
  have hshared : sharedBits x.toList y.toList = sharedBits y.toList x.toList :=
    Nat.le_antisymm
      (le_sharedBits_iff.mpr ((le_sharedBits_iff.mp (Nat.le_refl _)).imp_right
        fun h i hi => (h i hi).symm))
      (le_sharedBits_iff.mpr ((le_sharedBits_iff.mp (Nat.le_refl _)).imp_right
        fun h i hi => (h i hi).symm))
  have hlength : (common x xLength y yLength).2 = (common y yLength x xLength).2 := by
    simp only [common, hshared, Nat.min_comm]
  refine Prod.ext ?_ hlength
  rw [show (common y yLength x xLength).1 = y.mask (common y yLength x xLength).2 from rfl,
    ← hlength]
  exact mask_eq_mask_iff.mpr fun i hi => bit_eq_of_lt_common hi

end InetAddress.Octets
