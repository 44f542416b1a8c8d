import InetAddress.Proofs.Network.Masks
import InetAddress.Proofs.Network.Members
import InetAddress.Proofs.Order

/-!
# Networks are intervals

A mask rounds the number of an address down to a multiple of a power of two, and the members
of a network are the addresses that are rounded to the same multiple.  So their numbers are
an interval, from the masked base to the last number before the next multiple:

```text
value (mask s n)  ≤  value x  ≤  value (mask s n) + 2 ^ (128 - n) - 1
```

The order of addresses compares numbers first (`compare_eq`), so what lies between two
members is a member (`mem_members_of_between`), and a sorted list has the members of a network
side by side (`exists_stretch`).
-/

namespace InetAddress.V6

variable {a b s t x y z : V6} {n m : Nat}

/-! ## Masks in the order of addresses -/

theorem mask_isLE (a : V6) (n : Nat) : (compare (ofOctets (a.octets.mask n)) a).isLE := by
  refine isLE_of_value_le rfl ?_
  rw [octets_ofOctets, Octets.value_mask]
  exact Nat.div_mul_le_self _ _

theorem mask_isLE_mask (h : (compare a b).isLE) (n : Nat) :
    (compare (ofOctets (a.octets.mask n)) (ofOctets (b.octets.mask n))).isLE := by
  refine isLE_of_value_le rfl ?_
  rw [octets_ofOctets, octets_ofOctets, Octets.value_mask, Octets.value_mask]
  exact Nat.mul_le_mul_right _ (Nat.div_le_div_right (value_le_of_isLE h))

/-! ## The bounds of a network -/

/-- The numbers of the members are those from the masked base on, as many as the bits that are
left free can count. -/
theorem mem_members_iff_value (hn : n ≤ 128) :
    x ∈ members s n ↔ (s.octets.mask n).value ≤ x.octets.value ∧
      x.octets.value ≤ (s.octets.mask n).value + 2 ^ (128 - n) - 1 := by
  calc x ∈ members s n
      _ ↔ x.octets.mask n = s.octets.mask n := by
          rw [mem_members_iff, and_iff_right hn, Octets.mask_eq_mask_iff]
      _ ↔ x.octets.value / 2 ^ (8 * 16 - n) = s.octets.value / 2 ^ (8 * 16 - n) :=
          Octets.mask_eq_mask_iff_value
      _ ↔ _ := by
          rw [Nat.div_eq_iff (Nat.two_pow_pos _), ← Octets.value_mask]

/-- What lies between two members of a network is a member. -/
theorem mem_members_of_between (hxy : (compare x y).isLE) (hyz : (compare y z).isLE)
    (hx : x ∈ members s n) (hz : z ∈ members s n) : y ∈ members s n := by
  have hn : n ≤ 128 := (mem_members_iff.mp hx).1
  rw [mem_members_iff_value hn] at hx hz ⊢
  exact ⟨Nat.le_trans hx.1 (value_le_of_isLE hxy), Nat.le_trans (value_le_of_isLE hyz) hz.2⟩

/-! ## Sorted lists -/

/-- In a sorted list the elements with a property stand side by side, if the property passes to
what lies between two of them. -/
theorem exists_stretch {α : Type} {le : α → α → Prop} {P : α → Prop} {l : List α}
    (hsorted : l.Pairwise le) (hbetween : ∀ x y z, le x y → le y z → P x → P z → P y) :
    ∃ before stretch after, l = before ++ stretch ++ after ∧ (∀ x ∈ stretch, P x) ∧
      ∀ x ∈ before ++ after, ¬ P x := by
  induction l with
  | nil => exact ⟨[], [], [], rfl, by simp, by simp⟩
  | cons x l ih =>
      obtain ⟨hx, hl⟩ := List.pairwise_cons.mp hsorted
      obtain ⟨before, stretch, after, rfl, hstretch, houtside⟩ := ih hl
      by_cases hPx : P x
      · cases stretch with
        | nil =>
            refine ⟨[], [x], before ++ after, by simp, by simpa using hPx, ?_⟩
            simpa using houtside
        | cons z stretch =>
            -- nothing stands between `x` and the stretch, for it would have the property
            cases before with
            | nil =>
                refine ⟨[], x :: z :: stretch, after, rfl, ?_, houtside⟩
                exact List.forall_mem_cons.mpr ⟨hPx, hstretch⟩
            | cons y before =>
                have hyz : le y z := by
                  refine (List.pairwise_cons.mp hl).1 z ?_
                  simp
                have hPy := hbetween x y z (hx y (by simp)) hyz hPx (hstretch z (by simp))
                exact absurd hPy (houtside y (by simp))
      · refine ⟨x :: before, stretch, after, rfl, hstretch, ?_⟩
        exact List.forall_mem_cons.mpr ⟨hPx, houtside⟩

/-- **Networks are intervals of the order of addresses.**  The order compares numbers and then
zones; it is total and says `eq` of equal addresses only.  To mask an address does not move it
up and keeps the order.  The members of a network are the addresses with a number between two
bounds, two networks are nested or have no member in common, and in a sorted list the members of
a network stand side by side. -/
theorem members_interval_compare :
    (∀ a b : V6,
      compare a b = (compare a.octets.value b.octets.value).then (compare a.zone b.zone) ∧
      compare b a = (compare a b).swap ∧ (compare a b = .eq ↔ a = b)) ∧
    (∀ a b c : V6, (compare a b).isLE → (compare b c).isLE → (compare a c).isLE) ∧
    (∀ (a b : V6) (n : Nat), n ≤ 128 → ∃ x y, a.mask n = .ok x ∧ b.mask n = .ok y ∧
      (compare x a).isLE ∧ ((compare a b).isLE → (compare x y).isLE)) ∧
    (∀ (s : V6) (n : Nat), n ≤ 128 → ∃ base, s.mask n = .ok base ∧ ∀ x, x ∈ members s n ↔
      base.octets.value ≤ x.octets.value ∧
        x.octets.value ≤ base.octets.value + 2 ^ (128 - n) - 1) ∧
    (∀ (s t : V6) (n m : Nat), n ≤ m →
      members s n ∩ members t m = ∅ ∨ members t m ⊆ members s n) ∧
    (∀ as : List V6, (sort as).Perm as ∧ (sort as).Pairwise fun a b => (compare a b).isLE) ∧
    ∀ (s : V6) (n : Nat) (l : List V6), (l.Pairwise fun a b => (compare a b).isLE) →
      ∃ before stretch after, l = before ++ stretch ++ after ∧ (∀ x ∈ stretch, x ∈ members s n) ∧
        ∀ x ∈ before ++ after, x ∉ members s n := by
  refine ⟨fun a b => ⟨compare_eq a b, Std.OrientedCmp.eq_swap, Std.compare_eq_iff_eq⟩,
    fun a b c => Std.TransCmp.isLE_trans, fun a b n hn => ?_, fun s n hn => ?_,
    fun s t n m => inter_eq_empty_or_members_subset, fun as => ⟨sort_perm as, sort_pairwise as⟩,
    fun s n l hl => ?_⟩
  · exact ⟨_, _, mask_eq_ok hn, mask_eq_ok hn, mask_isLE a n, fun h => mask_isLE_mask h n⟩
  · exact ⟨_, mask_eq_ok hn, fun x => mem_members_iff_value hn⟩
  · exact exists_stretch hl fun x y z => mem_members_of_between

/-- The link-local addresses, as the network of an address in a zone, and two of them in a sorted
list with one address before them and one after. -/
theorem link_local_interval :
    let low := ofOctets #v[0xfe, 0x7f, 0, 0, 0, 0, 0, 0, 0, 0, 0, 0, 0, 0, 0, 0]
    let base := ofOctets #v[0xfe, 0x80, 0, 0, 0, 0, 0, 0, 0, 0, 0, 0, 0, 0, 0, 0]
    let s := (ofOctets #v[0xfe, 0x80, 0, 0, 0, 0, 0, 0, 0, 0, 0, 0, 0, 0, 0, 1]).withZone 7
    let high := ofOctets #v[0xfe, 0xc0, 0, 0, 0, 0, 0, 0, 0, 0, 0, 0, 0, 0, 0, 0]
    10 ≤ 128 ∧ s.mask 10 = .ok base ∧ (compare base s).isLE ∧
      (∀ x, x ∈ members s 10 ↔ base.octets.value ≤ x.octets.value ∧
        x.octets.value ≤ base.octets.value + 2 ^ (128 - 10) - 1) ∧
      ([low, base, s, high].Pairwise fun a b => (compare a b).isLE) ∧
      ∃ before stretch after, [low, base, s, high] = before ++ stretch ++ after ∧
        (∀ x ∈ stretch, x ∈ members s 10) ∧ ∀ x ∈ before ++ after, x ∉ members s 10 := by
  intro low base s high
  obtain ⟨-, -, hmasks, hbounds, -, -, hsorted⟩ := members_interval_compare
  have hn : 10 ≤ 128 := by decide
  have hbase : s.mask 10 = .ok base := by decide +kernel
  have hlist : [low, base, s, high].Pairwise fun a b => (compare a b).isLE := by decide +kernel
  obtain ⟨x, -, hx, -, hle, -⟩ := hmasks s s 10 hn
  obtain rfl := Except.ok.inj (hbase.symm.trans hx)
  obtain ⟨y, hy, hiff⟩ := hbounds s 10 hn
  obtain rfl := Except.ok.inj (hbase.symm.trans hy)
  exact ⟨hn, hbase, hle, hiff, hlist, hsorted s 10 _ hlist⟩

end InetAddress.V6
