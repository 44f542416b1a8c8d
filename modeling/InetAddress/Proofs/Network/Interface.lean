import InetAddress.Proofs.Network.SolicitedNode
import InetAddress.V6.Interface
import Mathlib.Data.Nat.Bitwise

/-!
# Addresses of interfaces

The link-local address of an interface has its MAC address in its low half, stretched to
eight octets:

```text
octet     0 1 2 3 4 5 6 7    8        9   10   11 12   13 14 15
          fe80::/64          m0 ^ 2   m1  m2   ff fe   m3 m4 m5
```

Nothing of the MAC address is lost, so it can be read back (`ofInterface_ofMac`), and an
address with these marks is the address of an interface (`exists_ofMac_iff`).  What class
the address is in does not depend on the MAC address: it is link-local, and link-local
addresses are in no other class (`not_has_of_isLinkLocal`).
-/

namespace InetAddress

/-! ## Two facts about octets -/

theorem xor_xor_cancel (x y : UInt8) : x ^^^ y ^^^ y = x := by
  rw [UInt8.xor_assoc, UInt8.xor_self, UInt8.xor_zero]

theorem and_two_ne_zero (x : UInt8) : (x &&& 2 != 0) = x.toNat.testBit 1 := by
  have hbit : (x &&& 2).toNat = 2 * (x.toNat.testBit 1).toNat := by
    rw [UInt8.toNat_and, Nat.and_comm]
    exact Nat.two_pow_and x.toNat 1
  rw [Bool.eq_iff_iff, bne_iff_ne, ne_eq, ← UInt8.toNat_inj, hbit]
  cases x.toNat.testBit 1 <;> simp

/-! ## Back to the MAC address -/

/-- The MAC address of the interface that has an address, with the bit for local assignment
flipped back. -/
def Mac.ofInterface (a : V6) : Mac :=
  ⟨#v[a.octets.octet 8 ^^^ 0x02, a.octets.octet 9, a.octets.octet 10, a.octets.octet 13,
    a.octets.octet 14, a.octets.octet 15]⟩

namespace V6

variable {a : V6} {m n : Mac}

theorem ofInterface_ofMac (m : Mac) : Mac.ofInterface (ofMac m) = m := by
  have hoctets : (Mac.ofInterface (ofMac m)).octets = m.octets := by
    refine Octets.ext_of_octet fun k hk => ?_
    match k, hk with
    | 0, _ => exact xor_xor_cancel _ _
    | 1, _ => rfl
    | 2, _ => rfl
    | 3, _ => rfl
    | 4, _ => rfl
    | 5, _ => rfl
  exact congrArg Mac.mk hoctets

theorem ofMac_injective : Function.Injective ofMac :=
  Function.LeftInverse.injective ofInterface_ofMac

theorem inside_ofMac (m : Mac) : (ofMac m).inside (leading 0xfe 0x80) 64 :=
  inside_iff_mask.mpr ((Octets.mask_eq_mask_iff_take (by decide : 8 ≤ 16)).mpr rfl)

/-- The marks of an interface's address are all that it has besides the MAC address. -/
theorem ofMac_ofInterface (hinside : a.inside (leading 0xfe 0x80) 64)
    (hff : a.octets.octet 11 = 0xff) (hfe : a.octets.octet 12 = 0xfe) (hzone : a.zone = 0) :
    ofMac (Mac.ofInterface a) = a := by
  have hblock : (ofMac (Mac.ofInterface a)).inside a 64 :=
    inside_iff_mask.mpr ((inside_iff_mask.mp (inside_ofMac _)).trans
      (inside_iff_mask.mp hinside).symm)
  have hoctets : (ofMac (Mac.ofInterface a)).octets = a.octets := by
    refine octets_eq_of_lowOctet 8 hblock fun k hk => ?_
    rw [lowOctet_eq_iff (by omega)]
    match k, hk with
    | 0, _ => rfl
    | 1, _ => rfl
    | 2, _ => rfl
    | 3, _ => exact hfe.symm
    | 4, _ => exact hff.symm
    | 5, _ => rfl
    | 6, _ => rfl
    | 7, _ => exact xor_xor_cancel _ _
  exact congrArg₂ mk hoctets hzone.symm

theorem inNetwork_iff_inside_half :
    a.inNetwork "fe80::/64" = .ok true ↔ a.inside (leading 0xfe 0x80) 64 := by
  have hparse : Network.parse "fe80::/64" = .ok ⟨.v6 (leading 0xfe 0x80), 64⟩ := by decide +kernel
  rw [inNetwork_of_v6 hparse, Except.ok.injEq]

theorem exists_ofMac_iff : (∃ m, ofMac m = a) ↔ a.inNetwork "fe80::/64" = .ok true ∧
    a.octets.octet 11 = 0xff ∧ a.octets.octet 12 = 0xfe ∧ a.zone = 0 := by
  rw [inNetwork_iff_inside_half]
  constructor
  · rintro ⟨m, rfl⟩
    exact ⟨inside_ofMac m, rfl, rfl, rfl⟩
  · rintro ⟨hinside, hff, hfe, hzone⟩
    exact ⟨Mac.ofInterface a, ofMac_ofInterface hinside hff hfe hzone⟩

/-! ## The bit for local assignment -/

/-- The bit is set where the MAC address was not assigned locally. -/
theorem and_two_ofMac (m : Mac) : ((ofMac m).octets.octet 8 &&& 0x02 != 0) = !m.isLocal := by
  rw [Mac.isLocal, and_two_ne_zero, and_two_ne_zero]
  change (m.octets.octet 0 ^^^ 2).toNat.testBit 1 = _
  rw [UInt8.toNat_xor, Nat.testBit_xor]
  exact Bool.xor_true _

/-! ## Classes -/

theorem isLinkLocal_ofMac (m : Mac) : (ofMac m).isLinkLocal := by
  rw [isLinkLocal_eq_inside, inside_iff_of_inside (inside_ofMac m) (by decide)]
  exact inside_iff_mask.mpr rfl

/-- A link-local address is in none of the classes that link-local addresses are apart from. -/
theorem not_has_of_isLinkLocal {c : Class} (h : a.isLinkLocal)
    (hc : (c, Class.linkLocal) ∈ Class.exclusions ∨ (Class.linkLocal, c) ∈ Class.exclusions) :
    ¬ c.has a := by
  rcases hc with hc | hc
  · exact fun ha => Class.not_has_of_mem hc ha h
  · exact Class.not_has_of_mem hc h

/-- Addresses with a transition are routable. -/
theorem transition_of_isLinkLocal (h : a.isLinkLocal) : a.transition = .none := by
  by_contra htransition
  exact not_isRoutable_of_isLinkLocal h (globalUnicast_of_transition htransition).1

/-! ## Solicited-node addresses -/

theorem not_isMulticast_ofMac (m : Mac) : ¬ (ofMac m).isMulticast :=
  not_has_of_isLinkLocal (c := .multicast) (isLinkLocal_ofMac m) (.inr (by decide))

theorem solicitedNode_ofMac (m : Mac) : (ofMac m).solicitedNode =
    .ok (solicitedGroup (m.octets.octet 3) (m.octets.octet 4) (m.octets.octet 5)) :=
  solicitedNode_of_not_isMulticast (not_isMulticast_ofMac m)

theorem solicitedNode_ofMac_eq_iff : (ofMac m).solicitedNode = (ofMac n).solicitedNode ↔
    m.octets.octet 3 = n.octets.octet 3 ∧ m.octets.octet 4 = n.octets.octet 4 ∧
      m.octets.octet 5 = n.octets.octet 5 := by
  rw [solicitedNode_ofMac, solicitedNode_ofMac, Except.ok.injEq, solicitedGroup_inj]

/-- **The address of an interface has the MAC address in it**, and marks that tell where.  The
addresses of interfaces are those of `fe80::/64` with `ff:fe` in the middle of the low half and
without a zone, one for each MAC address, and the MAC address can be read off.  They are
link-local and in no other class, whatever the MAC address is.  The solicited-node address ends in
the last three octets of the MAC address, and these decide which interfaces share it. -/
theorem ofMac_interface :
    (∀ m, (ofMac m).inNetwork "fe80::/64" = .ok true ∧ (ofMac m).octets.octet 11 = 0xff ∧
      (ofMac m).octets.octet 12 = 0xfe ∧ (ofMac m).zone = 0) ∧
    (∀ a, (∃ m, ofMac m = a) ↔ a.inNetwork "fe80::/64" = .ok true ∧
      a.octets.octet 11 = 0xff ∧ a.octets.octet 12 = 0xfe ∧ a.zone = 0) ∧
    (∀ m, Mac.ofInterface (ofMac m) = m) ∧ Function.Injective ofMac ∧
    (∀ m, ((ofMac m).octets.octet 8 &&& 0x02 != 0) = !m.isLocal) ∧
    (∀ m, (ofMac m).isLinkLocal ∧ (ofMac m).transition = .none ∧ ¬ (ofMac m).isMulticast ∧
      ¬ (ofMac m).isPrivate ∧ ¬ (ofMac m).isLoopback ∧ ¬ (ofMac m).isMapped ∧
      ¬ (ofMac m).isRoutable) ∧
    (∀ m, (ofMac m).solicitedNode =
      .ok (solicitedGroup (m.octets.octet 3) (m.octets.octet 4) (m.octets.octet 5))) ∧
    ∀ m n, (ofMac m).solicitedNode = (ofMac n).solicitedNode ↔
      m.octets.octet 3 = n.octets.octet 3 ∧ m.octets.octet 4 = n.octets.octet 4 ∧
        m.octets.octet 5 = n.octets.octet 5 := by
  refine ⟨fun m => exists_ofMac_iff.mp ⟨m, rfl⟩, fun a => exists_ofMac_iff, ofInterface_ofMac,
    ofMac_injective, and_two_ofMac, fun m => ?_, solicitedNode_ofMac,
    fun m n => solicitedNode_ofMac_eq_iff⟩
  have hlinkLocal := isLinkLocal_ofMac m
  have hnot : ∀ c, (c, Class.linkLocal) ∈ Class.exclusions ∨
      (Class.linkLocal, c) ∈ Class.exclusions → ¬ c.has (ofMac m) := fun c =>
    not_has_of_isLinkLocal hlinkLocal
  have hprivate : ¬ (ofMac m).isPrivate := hnot .privateUse (.inl (by decide))
  exact ⟨hlinkLocal, transition_of_isLinkLocal hlinkLocal, not_isMulticast_ofMac m, hprivate,
    fun hloopback => hprivate (isPrivate_of_isLoopback hloopback),
    hnot .mapped (.inl (by decide)), not_isRoutable_of_isLinkLocal hlinkLocal⟩

end V6

end InetAddress
