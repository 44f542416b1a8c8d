import InetAddress.Proofs.Network.Exclusion
import InetAddress.V6.Index

/-!
# Solicited-node addresses

Solicited-node addresses are a block, `ff02::1:ff00:0/104`.  An address that is not
multicast has one of them, the member of the block that ends in the same 24 bits
(`solicitedNode_eq_ok_iff`).  Two halves make up such an address, and each of them answers
for its own:

```text
104 bits of the block     multicast, no flags, scope 2, so never routable
24 bits of the address    which addresses share it
```

A member of a block is known by the bits that the block leaves open
(`octets_eq_of_lowOctet`).
-/

namespace InetAddress.V6

variable {a b r : V6} {e : Error} {count k : Nat}

/-! ## Low octets -/

theorem lowOctet_eq_iff (hk : k < 16) :
    a.lowOctet k = b.lowOctet k ↔ a.octets.octet (15 - k) = b.octets.octet (15 - k) := by
  rw [lowOctet, lowOctet, if_pos hk, if_pos hk, Except.ok.injEq]

/-- Where low octets agree, their bits do. -/
theorem lowBit_eq_of_lowOctet (hcount : count ≤ 16)
    (h : ∀ k < count, a.lowOctet k = b.lowOctet k) {i : Nat} (hi : i < 8 * count) :
    a.lowBit i = b.lowBit i := by
  have hoctet := (lowOctet_eq_iff (by omega)).mp (h (i / 8) (by omega))
  have hplace : (127 - i) / 8 = 15 - i / 8 := by omega
  rw [lowBit, lowBit, Octets.bit, Octets.bit, hplace, hoctet]

/-- What the octets of a block leave open are the low octets. -/
theorem octets_eq_of_lowOctet (count : Nat) (hinside : a.inside b (8 * (16 - count)))
    (h : ∀ k < count, a.lowOctet k = b.lowOctet k) : a.octets = b.octets := by
  have hmask := inside_iff_mask.mp hinside
  have hhigh := ((Octets.mask_eq_mask_iff_octet (16 - count) (Nat.zero_le 8)).mp hmask).1
  refine Octets.ext_of_octet fun k hk => ?_
  by_cases hfixed : k < 16 - count
  · exact hhigh k hfixed
  · have hlow := (lowOctet_eq_iff (by omega)).mp (h (15 - k) (by omega))
    rwa [show 15 - (15 - k) = k by omega] at hlow

/-! ## The block -/

/-- The solicited-node address that ends in three given octets. -/
def solicitedGroup (x y z : UInt8) : V6 :=
  ofOctets #v[0xff, 2, 0, 0, 0, 0, 0, 0, 0, 0, 0, 1, 0xff, x, y, z]

/-- An address of the block of solicited-node addresses, `ff02::1:ff00:0/104`. -/
def IsSolicited (a : V6) : Prop :=
  a.inside (solicitedGroup 0 0 0) 104

theorem inNetwork_iff_isSolicited :
    a.inNetwork "ff02::1:ff00:0/104" = .ok true ↔ a.IsSolicited := by
  have hparse : Network.parse "ff02::1:ff00:0/104" = .ok ⟨.v6 (solicitedGroup 0 0 0), 104⟩ := by
    decide +kernel
  rw [inNetwork_of_v6 hparse, Except.ok.injEq]
  rfl

theorem solicitedGroup_inj {x y z x' y' z' : UInt8} :
    solicitedGroup x y z = solicitedGroup x' y' z' ↔ x = x' ∧ y = y' ∧ z = z' := by
  constructor
  · intro h
    exact ⟨congrArg (fun a => a.octets.octet 13) h, congrArg (fun a => a.octets.octet 14) h,
      congrArg (fun a => a.octets.octet 15) h⟩
  · rintro ⟨rfl, rfl, rfl⟩
    rfl

theorem isSolicited_group (x y z : UInt8) : (solicitedGroup x y z).IsSolicited :=
  inside_iff_mask.mpr ((Octets.mask_eq_mask_iff_take (by decide : 13 ≤ 16)).mpr rfl)

namespace IsSolicited

/-- Members of the block are told apart by their low octets, but for the zone. -/
theorem eq_of_lowOctet (ha : a.IsSolicited) (hb : b.IsSolicited) (hzone : a.zone = b.zone)
    (hlow : ∀ k < 3, a.lowOctet k = b.lowOctet k) : a = b := by
  have hinside : a.inside b 104 :=
    inside_iff_mask.mpr ((inside_iff_mask.mp ha).trans (inside_iff_mask.mp hb).symm)
  exact congrArg₂ mk (octets_eq_of_lowOctet 3 hinside hlow) hzone

variable (h : a.IsSolicited)
include h

/-- A member of the block begins with the octets of the block. -/
theorem octet_eq (hk : k < 13) : a.octets.octet k = (solicitedGroup 0 0 0).octets.octet k :=
  ((Octets.mask_eq_mask_iff_octet 13 (Nat.zero_le 8)).mp (inside_iff_mask.mp h)).1 k hk

theorem isMulticast : a.isMulticast := by
  rw [V6.isMulticast, h.octet_eq (by decide)]
  rfl

theorem flagBits_eq : a.flagBits = 0 := by
  rw [flagBits, h.octet_eq (by decide)]
  rfl

theorem scopeBits_eq : a.scopeBits = 2 := by
  rw [scopeBits, h.octet_eq (by decide)]
  rfl

theorem multicastFlags_eq : a.multicastFlags = .ok 0 := by
  rw [multicastFlags, if_pos h.isMulticast, h.flagBits_eq]

theorem multicastScope_eq : a.multicastScope = .ok 2 := by
  rw [multicastScope, if_pos h.isMulticast, h.scopeBits_eq]

/-- The scope is not global, and multicast addresses are not global unicast. -/
theorem isNonroutable : a.isNonroutable := by
  have hunicast : a.inside (leading 0x20 0) 3 = false := by
    rw [← globalUnicast_eq_inside, h.isMulticast, Bool.not_true, Bool.and_false]
  have hscope : (a.octets.octet 1 &&& 0x0f == 0x0e) = false := by
    rw [h.octet_eq (by decide)]
    rfl
  rw [V6.isNonroutable, isRoutable_eq_inside, hunicast, hscope, Bool.and_false]
  rfl

theorem not_isLinkLocalBroadcast : ¬ a.isLinkLocalBroadcast := by
  intro hall
  have hoctet := h.octet_eq (k := 12) (by decide)
  rw [beq_iff_eq.mp hall] at hoctet
  exact absurd hoctet (by decide)

/-- Members of the block have no solicited-node address themselves. -/
theorem solicitedNode_eq : a.solicitedNode = .error (.multicastSource a) :=
  if_pos h.isMulticast

end IsSolicited

/-! ## From an address to its solicited-node address -/

theorem solicitedNode_eq_error_iff :
    a.solicitedNode = .error e ↔ a.isMulticast ∧ e = .multicastSource a := by
  rw [solicitedNode]
  split
  · next h => simp [h, eq_comm]
  · next h => simp [h]

theorem solicitedNode_of_not_isMulticast (h : ¬ a.isMulticast) : a.solicitedNode =
    .ok (solicitedGroup (a.octets.octet 13) (a.octets.octet 14) (a.octets.octet 15)) :=
  if_neg h

theorem lowOctet_solicitedGroup (hk : k < 3) :
    (solicitedGroup (a.octets.octet 13) (a.octets.octet 14) (a.octets.octet 15)).lowOctet k =
      a.lowOctet k :=
  match k, hk with
  | 0, _ => rfl
  | 1, _ => rfl
  | 2, _ => rfl

/-- The solicited-node address is the member of the block that has the low octets of the
address. -/
theorem solicitedNode_eq_ok_iff : a.solicitedNode = .ok r ↔
    ¬ a.isMulticast ∧ r.IsSolicited ∧ r.zone = 0 ∧ ∀ k < 3, r.lowOctet k = a.lowOctet k := by
  by_cases hmulticast : a.isMulticast
  · rw [solicitedNode_eq_error_iff.mpr ⟨hmulticast, rfl⟩]
    simp [hmulticast]
  · rw [solicitedNode_of_not_isMulticast hmulticast, Except.ok.injEq]
    constructor
    · rintro rfl
      exact ⟨hmulticast, isSolicited_group _ _ _, rfl, fun k => lowOctet_solicitedGroup⟩
    · rintro ⟨-, hr, hzone, hlow⟩
      refine (isSolicited_group _ _ _).eq_of_lowOctet hr hzone.symm fun k hk => ?_
      rw [lowOctet_solicitedGroup hk, hlow k hk]

/-- Addresses share a solicited-node address when they end in the same octets. -/
theorem solicitedNode_eq_iff (ha : ¬ a.isMulticast) (hb : ¬ b.isMulticast) :
    a.solicitedNode = b.solicitedNode ↔ ∀ k < 3, a.lowOctet k = b.lowOctet k := by
  have hok := solicitedNode_of_not_isMulticast ha
  have hlow := (solicitedNode_eq_ok_iff.mp hok).2.2.2
  rw [hok, eq_comm, solicitedNode_eq_ok_iff]
  constructor
  · rintro ⟨-, -, -, hshared⟩ k hk
    rw [← hlow k hk, hshared k hk]
  · intro h
    refine ⟨hb, isSolicited_group _ _ _, rfl, fun k hk => ?_⟩
    rw [hlow k hk, h k hk]

/-- **An address that is not multicast has one solicited-node address**, and no other address has
one.  It is in `ff02::1:ff00:0/104`, without a zone, and it ends in the low 24 bits of the address;
so two addresses share it just when their last three octets agree.  As a member of that block it is
multicast, with no flags and the scope of a link, hence not routable, and it is not the address of
all nodes.  Being multicast, it has no solicited-node address itself. -/
theorem solicitedNode_lowBit :
    (∀ a : V6, (∃ e, a.solicitedNode = .error e) ↔ a.isMulticast) ∧
    (∀ (a : V6) e, a.solicitedNode = .error e →
      e = .multicastSource a ∧ e.kind = .precondition) ∧
    (∀ a : V6, ¬ a.isMulticast → ∃ r, a.solicitedNode = .ok r ∧
      r.inNetwork "ff02::1:ff00:0/104" = .ok true ∧ r.zone = 0 ∧
      r.multicastFlags = .ok 0 ∧ r.multicastScope = .ok 2 ∧ r.isNonroutable ∧
      ¬ r.isLinkLocalBroadcast ∧ r ≠ allNodes ∧ (∀ i < 24, r.lowBit i = a.lowBit i) ∧
      r.solicitedNode = .error (.multicastSource r)) ∧
    ∀ a b : V6, ¬ a.isMulticast → ¬ b.isMulticast →
      (a.solicitedNode = b.solicitedNode ↔ ∀ k < 3, a.lowOctet k = b.lowOctet k) := by
  refine ⟨fun a => ?_, fun a e he => ?_, fun a ha => ?_, fun a b => solicitedNode_eq_iff⟩
  · simp only [solicitedNode_eq_error_iff, exists_and_left, exists_eq, and_true]
  · obtain ⟨-, rfl⟩ := solicitedNode_eq_error_iff.mp he
    exact ⟨rfl, rfl⟩
  · obtain ⟨-, hr, hzone, hlow⟩ :=
      solicitedNode_eq_ok_iff.mp (solicitedNode_of_not_isMulticast ha)
    refine ⟨_, solicitedNode_of_not_isMulticast ha, inNetwork_iff_isSolicited.mpr hr, hzone,
      hr.multicastFlags_eq, hr.multicastScope_eq, hr.isNonroutable, hr.not_isLinkLocalBroadcast,
      ?_, fun i => lowBit_eq_of_lowOctet (by decide) hlow, hr.solicitedNode_eq⟩
    intro hall
    exact hr.not_isLinkLocalBroadcast (beq_iff_eq.mpr (congrArg octets hall))

/-- Two addresses that end in the same octets, in different networks and zones, and one that has
no solicited-node address. -/
theorem solicited_node_across_networks :
    let a := ofOctets #v[0x40, 0x37, 0, 0, 0, 0, 0, 0, 0, 1, 8, 0, 0x20, 0x0e, 0x8c, 0x6c]
    let b := (ofOctets #v[0xfe, 0x80, 0, 0, 0, 0, 0, 0, 0, 0, 0, 0, 0, 0x0e, 0x8c, 0x6c]).withZone 3
    ¬ a.isMulticast ∧ ¬ b.isMulticast ∧ a.solicitedNode = b.solicitedNode ∧
      (∃ r, a.solicitedNode = .ok r ∧ r.text = "ff02::1:ff0e:8c6c" ∧
        r.solicitedNode = .error (.multicastSource r)) ∧
      allNodes.solicitedNode = .error (.multicastSource allNodes) ∧
      (Error.multicastSource allNodes).kind = .precondition := by
  intro a b
  obtain ⟨-, hrefused, hone, hshared⟩ := solicitedNode_lowBit
  have ha : ¬ a.isMulticast := by decide
  have hb : ¬ b.isMulticast := by decide
  have hall : allNodes.solicitedNode = .error (.multicastSource allNodes) := rfl
  obtain ⟨r, hr, -, -, -, -, -, -, -, -, hagain⟩ := hone a ha
  have hgroup : r = solicitedGroup 0x0e 0x8c 0x6c := (Except.ok.inj hr).symm
  have htext : r.text = "ff02::1:ff0e:8c6c" := by
    rw [hgroup]
    decide +kernel
  refine ⟨ha, hb, (hshared a b ha hb).mpr fun k hk => ?_, ⟨r, hr, htext, hagain⟩, hall,
    (hrefused allNodes _ hall).2⟩
  match k, hk with
  | 0, _ => rfl
  | 1, _ => rfl
  | 2, _ => rfl

end InetAddress.V6
