/-!
# Rows of octets

An address is a row of octets in network order, the most significant first. The bits of a row are
counted from the most significant as well, and `ext_of_bit` says that they are all there is to it.
-/

namespace InetAddress

/-- A row of `n` octets in network order. -/
abbrev Octets (n : Nat) := Vector UInt8 n

namespace Octets

variable {n : Nat}

/-- The row with the given octets, if there are exactly `n` of them. -/
def ofList? (octets : List UInt8) : Option (Octets n) :=
  if h : octets.length = n then some ⟨octets.toArray, by simp [h]⟩ else none

@[simp] theorem ofList?_toList (x : Octets n) : ofList? x.toList = some x := by
  simp [ofList?, Vector.toList]

theorem toList_of_ofList? {octets : List UInt8} {x : Octets n} (h : ofList? octets = some x) :
    x.toList = octets := by
  unfold ofList? at h
  split at h
  · cases h; rfl
  · cases h

theorem ofList?_eq_some_iff {octets : List UInt8} {x : Octets n} :
    ofList? octets = some x ↔ octets = x.toList :=
  ⟨fun h => (toList_of_ofList? h).symm, fun h => h ▸ ofList?_toList x⟩

/-! ## Octets and bits -/

/-- The octet at place `k`; past the end there are zero octets. -/
def octet (x : Octets n) (k : Nat) : UInt8 :=
  x[k]?.getD 0

/-- Bit `i`, counted from the most significant; there are no set bits past the end. -/
def bit (x : Octets n) (i : Nat) : Bool :=
  (x.octet (i / 8)).toNat.testBit (7 - i % 8)

theorem octet_eq_getElem {x : Octets n} {k : Nat} (h : k < n) : x.octet k = x[k] := by
  simp [octet, Vector.getElem?_eq_getElem h]

theorem getElem?_eq_octet {x : Octets n} {k : Nat} (h : k < n) : x[k]? = some (x.octet k) := by
  rw [octet_eq_getElem h, Vector.getElem?_eq_getElem h]

theorem octet_eq_zero {x : Octets n} {k : Nat} (h : n ≤ k) : x.octet k = 0 := by
  simp [octet, Vector.getElem?_eq_none h]

theorem bit_eq_false {x : Octets n} {i : Nat} (h : 8 * n ≤ i) : x.bit i = false := by
  rw [bit, octet_eq_zero (by omega)]
  exact Nat.zero_testBit _

/-- Octets with the same bits are the same octet. -/
theorem octet_ext {x y : UInt8}
    (h : ∀ r < 8, x.toNat.testBit (7 - r) = y.toNat.testBit (7 - r)) : x = y := by
  refine UInt8.toNat_inj.mp (Nat.eq_of_testBit_eq fun j => ?_)
  by_cases hj : j < 8
  · simpa only [show 7 - (7 - j) = j by omega] using h (7 - j) (by omega)
  · have hlarge : ∀ octet : UInt8, octet.toNat.testBit j = false := fun octet =>
      Nat.testBit_lt_two_pow
        (Nat.lt_of_lt_of_le octet.toNat_lt (Nat.pow_le_pow_right (by decide) (Nat.le_of_not_lt hj)))
    rw [hlarge, hlarge]

/-- Rows with the same bits are the same row. -/
theorem ext_of_bit {x y : Octets n} (h : ∀ i < 8 * n, x.bit i = y.bit i) : x = y := by
  refine Vector.ext fun k hk => ?_
  rw [← octet_eq_getElem, ← octet_eq_getElem]
  refine octet_ext fun r hr => ?_
  have hdiv : (8 * k + r) / 8 = k := by omega
  have hmod : (8 * k + r) % 8 = r := by omega
  simpa only [bit, hdiv, hmod] using h (8 * k + r) (by omega)

/-! ## Bits of a list -/

/-- Bit `i` of a list of octets, counted like the bits of a row. -/
def bitAt (octets : List UInt8) (i : Nat) : Bool :=
  (octets[i / 8]?.getD 0).toNat.testBit (7 - i % 8)

theorem bitAt_toList (x : Octets n) (i : Nat) : bitAt x.toList i = x.bit i := by
  simp [bitAt, bit, octet]

/-- The first octet holds the bits before place 8. -/
theorem bitAt_cons_of_lt (octet : UInt8) (rest : List UInt8) {i : Nat} (h : i < 8) :
    bitAt (octet :: rest) i = octet.toNat.testBit (7 - i) := by
  rw [bitAt, Nat.div_eq_of_lt h, Nat.mod_eq_of_lt h]
  rfl

/-- The other octets hold the bits from place 8 on. -/
theorem bitAt_cons_add (octet : UInt8) (rest : List UInt8) (i : Nat) :
    bitAt (octet :: rest) (i + 8) = bitAt rest i := by
  rw [bitAt, Nat.add_div_right i (by decide), Nat.add_mod_right, List.getElem?_cons_succ]
  rfl

end Octets

end InetAddress
