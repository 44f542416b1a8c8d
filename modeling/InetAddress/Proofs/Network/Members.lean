import InetAddress.Octets.Value
import InetAddress.V6.Mask
import Mathlib.Data.Set.Basic

/-!
# The members of a network

Membership is decided octet by octet, under the mask of the length.  Here it is read
bit by bit: the members of `(a, n)` are the addresses whose first `n` bits are those
of `a`.  One network lies in another just when it is no shorter and its own address
lies there (`members_subset_iff`).  That it is no shorter takes a member to show,
namely the address with one bit turned over.
-/

namespace InetAddress

namespace Octets

variable {n : Nat}

/-- The row with bit `k` turned over. -/
def flip (x : Octets n) (k : Nat) : Octets n :=
  ofValue (x.value ^^^ 1 <<< (8 * n - 1 - k))

theorem bit_flip (x : Octets n) {i k : Nat} (hi : i < 8 * n) (hk : k < 8 * n) :
    (x.flip k).bit i = (x.bit i ^^ decide (i = k)) := by
  have hplace : 8 * n - 1 - k = 8 * n - 1 - i ↔ i = k := by omega
  rw [flip, bit_ofValue hi, Nat.testBit_xor, testBit_value hi, Nat.one_shiftLeft,
    Nat.testBit_two_pow]
  simp only [hplace]

end Octets

namespace V6

variable {a b q x : V6} {n m k : Nat}

/-- The addresses that agree with `a` under the mask of length `n`.  There are none
where there is no such mask. -/
def members (a : V6) (n : Nat) : Set V6 :=
  {x | ∃ mask, netmask n = .ok mask ∧ agreeUnder mask x a}

/-- Addresses agree under a mask when they agree on the bits it keeps. -/
theorem mem_members_iff :
    x ∈ members a n ↔ n ≤ 128 ∧ ∀ i < n, x.octets.bit i = a.octets.bit i := by
  have hagree : agreeUnder (Octets.netmask n) x a ↔
      ∀ i < n, x.octets.bit i = a.octets.bit i := by
    rw [agreeUnder, beq_iff_eq]
    exact Octets.mask_eq_mask_iff
  unfold members netmask
  constructor
  · intro h
    obtain ⟨mask, hmask, hx⟩ := h
    split at hmask
    · next hn =>
        cases hmask
        exact ⟨hn, hagree.mp hx⟩
    · cases hmask
  · intro h
    obtain ⟨hn, hx⟩ := h
    exact ⟨Octets.netmask n, if_pos hn, hagree.mpr hx⟩

theorem self_mem_members (a : V6) (hn : n ≤ 128) : a ∈ members a n :=
  mem_members_iff.mpr ⟨hn, fun _ _ => rfl⟩

theorem mem_members_comm : x ∈ members a n ↔ a ∈ members x n := by
  rw [mem_members_iff, mem_members_iff]
  constructor
  · intro h
    obtain ⟨hn, h⟩ := h
    exact ⟨hn, fun i hi => (h i hi).symm⟩
  · intro h
    obtain ⟨hn, h⟩ := h
    exact ⟨hn, fun i hi => (h i hi).symm⟩

theorem mem_members_trans (hx : x ∈ members a n) (ha : a ∈ members q k) (hkn : k ≤ n) :
    x ∈ members q k := by
  obtain ⟨-, hx⟩ := mem_members_iff.mp hx
  obtain ⟨hk, ha⟩ := mem_members_iff.mp ha
  refine mem_members_iff.mpr ⟨hk, fun i hi => ?_⟩
  calc x.octets.bit i
      _ = a.octets.bit i := hx i (by omega)
      _ = q.octets.bit i := ha i hi

/-- A member that differs from the address in the first bit past the length. -/
theorem flip_mem_members (a : V6) (hn : n < 128) : ofOctets (a.octets.flip n) ∈ members a n := by
  refine mem_members_iff.mpr ⟨by omega, fun i hi => ?_⟩
  rw [octets_ofOctets, Octets.bit_flip a.octets (by omega) hn, decide_eq_false (by omega),
    Bool.xor_false]

/-- **Containment.**  A network lies in another just when it is no shorter and its
address lies there. -/
theorem members_subset_iff (hn : n ≤ 128) :
    members a n ⊆ members q k ↔ k ≤ n ∧ a ∈ members q k := by
  constructor
  · intro hsub
    have ha := hsub (self_mem_members a hn)
    refine ⟨?_, ha⟩
    by_contra hlong
    obtain ⟨hk, hbits⟩ := mem_members_iff.mp ha
    -- turning over bit `n` stays in the one network and leaves the other
    have hflip := (mem_members_iff.mp (hsub (flip_mem_members a (by omega)))).2 n (by omega)
    rw [octets_ofOctets, Octets.bit_flip a.octets (by omega) (by omega), decide_eq_true rfl,
      hbits n (by omega)] at hflip
    exact absurd hflip (by cases q.octets.bit n <;> decide)
  · rintro ⟨hkn, ha⟩ x hx
    exact mem_members_trans hx ha hkn

/-- Of two networks the longer one lies in the other, or they have no member in common. -/
theorem inter_eq_empty_or_members_subset (hkn : k ≤ n) :
    members q k ∩ members a n = ∅ ∨ members a n ⊆ members q k := by
  by_cases ha : a ∈ members q k
  · exact .inr fun x hx => mem_members_trans hx ha hkn
  · refine .inl (Set.eq_empty_iff_forall_notMem.mpr fun x hx => ha ?_)
    exact mem_members_trans (mem_members_comm.mp hx.2) hx.1 hkn

end V6

end InetAddress
