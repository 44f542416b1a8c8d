import InetAddress.V6.Basic
import InetAddress.Proofs.Octets.Order

/-!
# The order of addresses

IPv4 addresses are ordered as the numbers that they spell, and so are IPv6 addresses, the
zones deciding between equal numbers (`V6.compare_eq`).  The order is total and tells
addresses apart: the two instances below say so.  Whatever does not look at zones can only
use one half of it, `V6.value_le_of_isLE`.
-/

namespace InetAddress

/-! ## IPv4 addresses -/

namespace V4

theorem compare_eq (v w : V4) : compare v w = compare v.octets.value w.octets.value :=
  Octets.compare_eq_compare_value v.octets w.octets

theorem compare_eq_compare_toUInt32 (v w : V4) : compare v w = compare v.toUInt32 w.toUInt32 := by
  rw [compare_eq, ← toNat_toUInt32, ← toNat_toUInt32]
  exact (Octets.compare_eq_compare_number (fun _ _ => UInt32.lt_iff_toNat_lt.mpr)
    (fun _ _ => UInt32.toNat_inj.mp) v.toUInt32 w.toUInt32).symm

theorem compare_eq_lt_iff {v w : V4} : compare v w = .lt ↔ v.toUInt32 < w.toUInt32 := by
  rw [compare_eq_compare_toUInt32, Std.compare_eq_lt]

end V4

/-! ## IPv6 addresses -/

namespace V6

variable {a b : V6}

/-- Numbers decide, and zones where these are equal. -/
theorem compare_eq (a b : V6) :
    compare a b = (compare a.octets.value b.octets.value).then (compare a.zone b.zone) := by
  rw [← Octets.compare_eq_compare_value]
  rfl

instance : Std.TransOrd V6 :=
  inferInstanceAs (Std.TransCmp (compareLex (compareOn octets) (compareOn zone)))

instance : Std.LawfulEqOrd V6 where
  eq_of_compare {a b} h := by
    rw [compare_eq, Ordering.then_eq_eq, Nat.compare_eq_eq, Std.compare_eq_iff_eq,
      Octets.value_inj] at h
    cases a
    cases b
    exact congrArg₂ mk h.1 h.2

theorem isLE_compare_iff : (compare a b).isLE ↔ a.octets.value < b.octets.value ∨
    a.octets.value = b.octets.value ∧ (compare a.zone b.zone).isLE := by
  rw [compare_eq, Ordering.isLE_then_iff_or, Nat.compare_eq_lt, Nat.compare_eq_eq]

theorem value_le_of_isLE (h : (compare a b).isLE) : a.octets.value ≤ b.octets.value := by
  rcases isLE_compare_iff.mp h with hlt | ⟨heq, -⟩
  · exact Nat.le_of_lt hlt
  · exact Nat.le_of_eq heq

/-- Without a zone an address comes before all those whose numbers are no smaller. -/
theorem isLE_of_value_le (hzone : a.zone = 0) (h : a.octets.value ≤ b.octets.value) :
    (compare a b).isLE := by
  rw [isLE_compare_iff, hzone]
  refine (Nat.lt_or_eq_of_le h).imp_right fun heq => ⟨heq, ?_⟩
  rw [Std.isLE_compare]
  exact UInt16.zero_le

/-! ## Sorted lists -/

theorem sort_perm (as : List V6) : (sort as).Perm as :=
  List.mergeSort_perm as _

theorem sort_pairwise (as : List V6) : (sort as).Pairwise fun a b => (compare a b).isLE := by
  refine List.pairwise_mergeSort (fun a b c => Std.TransCmp.isLE_trans) (fun a b => ?_) as
  rw [show compare b a = (compare a b).swap from Std.OrientedCmp.eq_swap]
  cases compare a b <;> rfl

end V6

end InetAddress
