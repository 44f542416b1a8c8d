import InetAddress.Proofs.Network.Blocks
import InetAddress.Proofs.Network.Masks
import InetAddress.Proofs.Quads
import InetAddress.Proofs.Sameness

/-!
# IPv4 networks among the mapped addresses

The IPv4 addresses lie in the IPv6 addresses as `::ffff:0:0/96`, and IPv4 networks lie
there with them.  A mask of `n` bits on the one side is a mask of `96 + n` bits on the
other, where the 96 bits in front are those that all mapped addresses share
(`mask_ofV4_eq_ok`, `mask_ofV4_eq_error`):

```text
        v   ── mask n ──→        w
        │                        │
 ::ffff:v   ── mask 96 + n ──→  ::ffff:w
```

A shorter mask leaves the mapped addresses, since the last bit that marks them is bit 95,
and that is set (`isMapped_mask_iff`).  As keys an IPv4 address and its mapped form are the
same, so the two ways to write an IPv4 network have bases that are the same as well.
-/

namespace InetAddress

namespace V6

variable {a b : V6} {v : V4} {n m : Nat}

/-! ## Masks -/

/-- Mapped and masked is masked and mapped. -/
theorem mask_ofV4_eq_ok (v : V4) (hn : n ≤ 32) :
    ∃ w, v.mask n = .ok w ∧ (ofV4 v).mask (96 + n) = .ok (ofV4 w) := by
  refine ⟨⟨v.octets.mask n⟩, V4.mask_eq_ok hn, ?_⟩
  rw [mask_eq_ok (show 96 + n ≤ 128 by omega), mask_ofV4]
  rfl

/-- What is too long for an address is too long for its mapped form. -/
theorem mask_ofV4_eq_error (v : V4) (hn : 32 < n) :
    v.mask n = .error (.tooLong n 32) ∧
      (ofV4 v).mask (96 + n) = .error (.tooLong (96 + n) 128) :=
  ⟨if_neg (Nat.not_le.mpr hn), if_neg (show ¬ 96 + n ≤ 128 by omega)⟩

theorem isMapped_iff_mask :
    a.isMapped ↔ a.octets.mask 96 = (ofV4 .unspecified).octets.mask 96 := by
  rw [isMapped_eq_inside .unspecified, inside_iff_mask]

/-- The last of the bits that mark a mapped address is set. -/
theorem bit_of_isMapped (h : a.isMapped) : a.octets.bit 95 = true := by
  have hbits := Octets.mask_eq_mask_iff.mp (isMapped_iff_mask.mp h)
  rw [hbits 95 (by decide)]
  decide

/-- A mask leaves a mapped address mapped if it keeps the bits that mark it. -/
theorem isMapped_mask_iff (h : a.isMapped) :
    (ofOctets (a.octets.mask m)).isMapped ↔ 96 ≤ m := by
  refine ⟨fun hmask => ?_, fun hm => ?_⟩
  · have hbit := bit_of_isMapped hmask
    rw [octets_ofOctets, Octets.bit_mask, Bool.and_eq_true, decide_eq_true_iff] at hbit
    exact hbit.2
  · rw [isMapped_iff_mask, octets_ofOctets, Octets.mask_mask, Nat.min_eq_right hm]
    exact isMapped_iff_mask.mp h

end V6

/-! ## Networks -/

theorem Address.same_ofV4 (v : V4) : (Address.v4 v).same (.v6 (.ofV4 v)) :=
  same_v4_v6_iff.mpr (carries_iff.mpr (V6.mapped?_ofV4 v))

namespace Network

variable {n : Nat}

/-- An IPv4 network, and the same network written with mapped addresses. -/
theorem parse_withLength_mapped (v : V4) (hn : n ≤ 32) :
    ∃ w, v.mask n = .ok w ∧ parse (V6.withLength v.text n) = .ok ⟨.v4 w, n⟩ ∧
      parse (V6.withLength ("::ffff:" ++ v.text) (96 + n)) = .ok ⟨.v6 (.ofV4 w), 96 + n⟩ := by
  obtain ⟨w, hw, hmapped⟩ := V6.mask_ofV4_eq_ok v hn
  have hread := V6.parse_mapped_text v
  refine ⟨w, hw, parse_withLength (Address.v4 v).slash_not_mem_text
    (Address.parse_of_v4 v.parse_text) ?_, parse_withLength (V6.slash_not_mem_of_parse hread)
    (Address.parse_of_v6 hread) ?_⟩
  · rw [Address.mask, hw]
    rfl
  · rw [Address.mask, hmapped]
    rfl

/-- **IPv4 networks are IPv6 networks of mapped addresses.**  To mask an IPv4 address and to mask
its mapped form, with 96 bits more, succeed and fail together and lead to an address and its
mapped form.  A mask of a mapped address is mapped just when it keeps those 96 bits.  The two ways
to write a network are both read, and their bases are the same and have one digest. -/
theorem mask_parse_ofV4 :
    (∀ (v : V4) (n : Nat),
      (n ≤ 32 → ∃ w, v.mask n = .ok w ∧ (V6.ofV4 v).mask (96 + n) = .ok (.ofV4 w)) ∧
      (32 < n → v.mask n = .error (.tooLong n 32) ∧
        (V6.ofV4 v).mask (96 + n) = .error (.tooLong (96 + n) 128))) ∧
    (∀ (a : V6) (m : Nat), a.isMapped → m ≤ 128 →
      ∃ b, a.mask m = .ok b ∧ (b.isMapped ↔ 96 ≤ m)) ∧
    ∀ (v : V4) (n : Nat), n ≤ 32 →
      ∃ x y : Address, parse (V6.withLength v.text n) = .ok ⟨x, n⟩ ∧
        parse (V6.withLength ("::ffff:" ++ v.text) (96 + n)) = .ok ⟨y, 96 + n⟩ ∧
        x.same y ∧ x.digest = y.digest := by
  refine ⟨fun v n => ⟨V6.mask_ofV4_eq_ok v, V6.mask_ofV4_eq_error v⟩, fun a m ha hm => ?_,
    fun v n hn => ?_⟩
  · exact ⟨_, V6.mask_eq_ok hm, V6.isMapped_mask_iff ha⟩
  · obtain ⟨w, -, hfour, hsix⟩ := parse_withLength_mapped v hn
    have hsame := Address.same_ofV4 w
    exact ⟨_, _, hfour, hsix, hsame, Address.digest_eq_of_same hsame⟩

/-- A mask that ends within an octet, and one that leaves the mapped addresses. -/
theorem v4_network_written_both_ways :
    let v := V4.ofParts 192 168 171 77
    let w := V4.ofParts 192 168 160 0
    20 ≤ 32 ∧ v.mask 20 = .ok w ∧ (V6.ofV4 v).mask (96 + 20) = .ok (.ofV4 w) ∧
      (V6.ofV4 v).isMapped ∧ 90 ≤ 128 ∧ (∃ b, (V6.ofV4 v).mask 90 = .ok b ∧ ¬ b.isMapped) ∧
      parse (V6.withLength v.text 20) = .ok ⟨.v4 w, 20⟩ ∧
      ∃ y : Address, parse (V6.withLength ("::ffff:" ++ v.text) (96 + 20)) = .ok ⟨y, 96 + 20⟩ ∧
        (Address.v4 w).same y ∧ (Address.v4 w).digest = y.digest := by
  intro v w
  obtain ⟨hmasks, hleaves, hwritten⟩ := mask_parse_ofV4
  have hshort : 20 ≤ 32 := by decide
  have hw : v.mask 20 = .ok w := by decide +kernel
  have hmapped : (V6.ofV4 v).isMapped := by decide +kernel
  have hfour : parse (V6.withLength v.text 20) = .ok ⟨.v4 w, 20⟩ := by decide +kernel
  obtain ⟨w', hmask, hmaskMapped⟩ := (hmasks v 20).1 hshort
  obtain rfl := Except.ok.inj (hw.symm.trans hmask)
  obtain ⟨b, hb, hiff⟩ := hleaves (V6.ofV4 v) 90 hmapped (by decide)
  obtain ⟨x, y, hx, hy, hsame, hdigest⟩ := hwritten v 20 hshort
  obtain rfl := congrArg Network.base (Except.ok.inj (hfour.symm.trans hx))
  have hleft : ¬ b.isMapped := fun h => absurd (hiff.mp h) (by decide)
  exact ⟨hshort, hw, hmaskMapped, hmapped, by decide, ⟨b, hb, hleft⟩, hfour, y, hy, hsame, hdigest⟩

end Network

end InetAddress
