import InetAddress.Proofs.Network.NormalForm
import InetAddress.Proofs.Octets.Order

/-!
# What a mask does to the number of an address

An address of width `w` is a number below `2 ^ w`, and a mask of `n` bits rounds it down
to a multiple of `2 ^ (w - n)`.  The two ends of the range are no exceptions: no bits
leave 0, and all of them leave the number as it is.

Masks work on octets, a whole octet at a time but for one.  Read bit by bit this is
`Octets.bit_mask`, and the binary digits of a number are its bits counted from the other
end, so rounding is the same fact once more (`Octets.value_mask`).  Four octets fit into a
word and are masked by one conjunction of words, which comes to the same (`V4.mask_eq_ok`).

Masks of two lengths, one after the other, cut an address down to the shorter one
(`CutDown.trans`), in either order.
-/

namespace InetAddress

/-! ## Masked addresses -/

namespace Address

variable {a b c : Address} {n m : Nat} {e : Error}

/-- The number that the octets of an address spell. -/
def value : Address → Nat
  | v4 a => a.octets.value
  | v6 a => a.octets.value

/-- Bit `i` of the number of an address, counted from the most significant. -/
def bit (a : Address) (i : Nat) : Bool :=
  a.value.testBit (a.width - 1 - i)

theorem bit_v4 {a : V4} {i : Nat} (h : i < 32) : (v4 a).bit i = a.octets.bit i :=
  Octets.testBit_value h

theorem bit_v6 {a : V6} {i : Nat} (h : i < 128) : (v6 a).bit i = a.octets.bit i :=
  Octets.testBit_value h

theorem CutDown.family_eq (h : CutDown n a b) : b.family = a.family := by
  cases h <;> rfl

theorem CutDown.zone_eq {x : V6} (h : CutDown n a (.v6 x)) : x.zone = 0 := by
  cases h with
  | v6 _ hzone => exact hzone

theorem CutDown.bit_eq (h : CutDown n a b) {i : Nat} (hi : i < a.width) :
    b.bit i = (decide (i < n) && a.bit i) := by
  cases h with
  | v4 hbits => rw [bit_v4 hi, bit_v4 hi, hbits i hi, Bool.and_comm]
  | v6 hbits => rw [bit_v6 hi, bit_v6 hi, hbits i hi, Bool.and_comm]

theorem CutDown.value_eq (h : CutDown n a b) :
    b.value = a.value / 2 ^ (a.width - n) * 2 ^ (a.width - n) := by
  cases h with
  | @v4 a b hbits =>
      have hoctets : b.octets = a.octets.mask n := Octets.eq_mask_iff.mpr hbits
      rw [value, hoctets]
      exact Octets.value_mask a.octets n
  | @v6 a b hbits =>
      have hoctets : b.octets = a.octets.mask n := Octets.eq_mask_iff.mpr hbits
      rw [value, hoctets]
      exact Octets.value_mask a.octets n

/-- What is cut down twice is cut down to the shorter length. -/
theorem CutDown.trans (hab : CutDown n a b) (hbc : CutDown m b c) : CutDown (min n m) a c := by
  cases hab with
  | @v4 a b hfirst =>
      have hb : b.octets = a.octets.mask n := Octets.eq_mask_iff.mpr hfirst
      cases hbc with
      | v4 hsecond =>
          rw [cutDown_v4_iff, ← Octets.mask_mask, ← hb]
          exact Octets.eq_mask_iff.mpr hsecond
  | @v6 a b hfirst =>
      have hb : b.octets = a.octets.mask n := Octets.eq_mask_iff.mpr hfirst
      cases hbc with
      | v6 hsecond hzone =>
          rw [cutDown_v6_iff, ← Octets.mask_mask, ← hb]
          exact ⟨Octets.eq_mask_iff.mpr hsecond, hzone⟩

theorem mask_eq_error_iff : a.mask n = .error e ↔ a.width < n ∧ e = .tooLong n a.width := by
  by_cases hn : n ≤ a.width
  · obtain ⟨b, hb⟩ := exists_cutDown a n
    simp [mask_of_cutDown hb hn, Nat.not_lt.mpr hn]
  · have hlong := Nat.lt_of_not_le hn
    rw [mask_of_width_lt hlong, Except.error.injEq, eq_comm, and_iff_right hlong]

/-- Two masks, one after the other, act as the one with fewer bits. -/
theorem mask_bind_mask (hn : n ≤ a.width) (hm : m ≤ a.width) :
    (a.mask n).bind (·.mask m) = a.mask (min n m) := by
  obtain ⟨b, hab⟩ := exists_cutDown a n
  obtain ⟨c, hbc⟩ := exists_cutDown b m
  calc (a.mask n).bind (·.mask m)
      _ = b.mask m := by rw [mask_of_cutDown hab hn, Except.bind]
      _ = .ok c := mask_of_cutDown hbc (hab.width_eq ▸ hm)
      _ = a.mask (min n m) :=
          (mask_of_cutDown (hab.trans hbc) (Nat.le_trans (Nat.min_le_left n m) hn)).symm

/-- A mask changes nothing of what it has left. -/
theorem mask_bind_mask_self (a : Address) (n : Nat) : (a.mask n).bind (·.mask n) = a.mask n := by
  by_cases hn : n ≤ a.width
  · rw [mask_bind_mask hn hn, Nat.min_self]
  · rw [mask_of_width_lt (Nat.lt_of_not_le hn), Except.bind]

/-- **A mask keeps the high bits of an address, clears the others, and rounds its number down.**
It fails just for more bits than the family has.  A masked address is of the same family and has
no zone.  On IPv4 addresses the mask is a conjunction of words.  Masks commute, the shorter one
wins, and a mask done twice is done. -/
theorem mask_bit_value (a : Address) (n : Nat) :
    (∀ e, a.mask n = .error e ↔ a.width < n ∧ e = .tooLong n a.width) ∧
    (n ≤ a.width → ∃ b, a.mask n = .ok b ∧ b.family = a.family ∧
      (∀ i < a.width, b.bit i = (decide (i < n) && a.bit i)) ∧
      b.value = a.value / 2 ^ (a.width - n) * 2 ^ (a.width - n) ∧
      ∀ x, b = .v6 x → x.zone = 0) ∧
    (∀ x : V4, a = .v4 x → n ≤ 32 →
      a.mask n = .ok (.v4 (.ofUInt32 (x.toUInt32 &&& V4.wordMask n)))) ∧
    (∀ m, n ≤ a.width → m ≤ a.width →
      (a.mask n).bind (·.mask m) = a.mask (min n m) ∧
      (a.mask m).bind (·.mask n) = a.mask (min n m)) ∧
    (a.mask n).bind (·.mask n) = a.mask n := by
  refine ⟨fun e => mask_eq_error_iff, fun hn => ?_, ?_, fun m hn hm => ⟨mask_bind_mask hn hm, ?_⟩,
    mask_bind_mask_self a n⟩
  · obtain ⟨b, hb⟩ := exists_cutDown a n
    refine ⟨b, mask_of_cutDown hb hn, hb.family_eq, fun i hi => hb.bit_eq hi, hb.value_eq, ?_⟩
    rintro x rfl
    exact hb.zone_eq
  · rintro x rfl hn
    rw [mask, V4.mask, if_pos hn]
    rfl
  · rw [mask_bind_mask hm hn, Nat.min_comm]

/-- A mask that ends within an octet, on an address in a zone. -/
theorem mask_within_an_octet :
    let x := V6.ofOctets #v[0x20, 1, 0x0d, 0xb8, 0xab, 0xcd, 0xff, 0, 0, 0, 0, 0, 0, 0, 0, 1]
    let y := V6.ofOctets #v[0x20, 1, 0x0d, 0xb8, 0xa0, 0, 0, 0, 0, 0, 0, 0, 0, 0, 0, 0]
    35 ≤ (v6 (x.withZone 7)).width ∧ (v6 (x.withZone 7)).mask 35 = .ok (v6 y) ∧
      (v6 y).value = (v6 x).value / 2 ^ 93 * 2 ^ 93 := by
  intro x y
  have hwidth : 35 ≤ (v6 (x.withZone 7)).width := by decide
  obtain ⟨-, hkeeps, -⟩ := mask_bit_value (v6 (x.withZone 7)) 35
  obtain ⟨b, hmask, -, -, hvalue, -⟩ := hkeeps hwidth
  have hy : (v6 (x.withZone 7)).mask 35 = .ok (v6 y) := by decide +kernel
  obtain rfl := Except.ok.inj (hmask.symm.trans hy)
  exact ⟨hwidth, hy, hvalue⟩

end Address

end InetAddress
