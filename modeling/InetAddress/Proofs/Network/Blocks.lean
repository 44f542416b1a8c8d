import InetAddress.V6.Class
import InetAddress.V6.Transition
import InetAddress.Proofs.Octets.Leading
import InetAddress.Proofs.Network.Agreement

/-!
# Classes are blocks

A class is told by an octet or two, by a row of leading octets, or by the IPv4 address
that a mapped address carries.  Each of these tests is membership in a network, or in
one of several:

```text
fe80::/10               link-local
ff00::/8                multicast
::ffff:0:0/96           mapped
2001::/32               Teredo
2002::/16               6to4
::1/128                 loopback, with ::ffff:127.0.0.0/104
fc00::/7                private, with all loopback addresses and three mapped blocks
2000::/3                routable, with multicast addresses of global reach
```

Under a mask of `8 * whole + rest` bits only the octets at the front are compared
(`Octets.mask_eq_mask_iff_octet`), which settles the tests on octets, with a mask on them
(`inBlock_eq_inside`) or without.  For the carried addresses, a mapped block is a block of
what it carries (`inside_ofV4_iff`).
-/

namespace InetAddress

/-! ## Blocks of IPv4 addresses -/

namespace V4

variable {v : V4}

theorem isLoopback_iff : v.isLoopback ↔ v.octets.mask 8 = (ofParts 127 0 0 0).octets.mask 8 := by
  rw [Octets.mask_eq_mask_iff_first (Nat.le_refl 8)]
  simp only [isLoopback, Octets.and_leadingOnes_of_le (Nat.le_refl 8), beq_iff_eq]
  rfl

theorem isPrivate_iff :
    v.isPrivate ↔ v.isLoopback ∨ v.octets.mask 8 = (ofParts 10 0 0 0).octets.mask 8 ∨
      v.octets.mask 12 = (ofParts 172 16 0 0).octets.mask 12 ∨
      v.octets.mask 16 = (ofParts 192 168 0 0).octets.mask 16 := by
  rw [Octets.mask_eq_mask_iff_first (Nat.le_refl 8),
    Octets.mask_eq_mask_iff_second (by decide : 4 ≤ 8),
    Octets.mask_eq_mask_iff_second (Nat.le_refl 8)]
  simp only [isPrivate, Octets.and_leadingOnes_of_le (Nat.le_refl 8), Bool.or_eq_true,
    Bool.and_eq_true, beq_iff_eq, or_assoc]
  rfl

end V4

namespace V6

variable {a base : V6} {v : V4} {n : Nat} {cidr : String} {cidrs : List String}

/-! ## Blocks of mapped addresses -/

theorem mask_ofV4 (v : V4) (n : Nat) :
    (ofV4 v).octets.mask (96 + n) = (ofV4 ⟨v.octets.mask n⟩).octets :=
  Octets.mask_append mappedHead v.octets n

theorem octets_ofV4_inj {v w : V4} : (ofV4 v).octets = (ofV4 w).octets ↔ v = w := by
  constructor
  · intro h
    have hcarried := mapped?_eq_some_iff.mpr h
    rw [mapped?_ofV4] at hcarried
    exact Option.some.inj hcarried
  · rintro rfl
    rfl

theorem isMapped_eq_inside (v : V4) : a.isMapped = a.inside (ofV4 v) 96 := by
  have hhead : (ofV4 v).octets.toList.take 12 = mappedHead.toList := by
    rw [toList_octets_ofV4]
    exact List.take_left' rfl
  rw [Bool.eq_iff_iff, inside_iff_mask, Octets.mask_eq_mask_iff_take (by decide : 12 ≤ 16),
    hhead]
  exact beq_iff_eq

/-- A block of mapped addresses is a block of the IPv4 addresses that they carry. -/
theorem inside_ofV4_iff :
    a.inside (ofV4 v) (96 + n) ↔
      ∃ carried, a.mapped? = some carried ∧ carried.octets.mask n = v.octets.mask n := by
  have hcarried : ∀ carried, a.mapped? = some carried →
      (a.inside (ofV4 v) (96 + n) ↔ carried.octets.mask n = v.octets.mask n) := by
    intro carried h
    rw [inside_iff_mask, mapped?_eq_some_iff.mp h, mask_ofV4, mask_ofV4, octets_ofV4_inj,
      V4.mk.injEq]
  constructor
  · intro h
    have hhead := Octets.mask_eq_mask_of_le (inside_iff_mask.mp h) (Nat.le_add_right 96 n)
    have hmapped : a.mapped?.isSome := by
      rw [isSome_mapped?, isMapped_eq_inside v]
      exact inside_iff_mask.mpr hhead
    obtain ⟨carried, hmapped⟩ := Option.isSome_iff_exists.mp hmapped
    exact ⟨carried, hmapped, (hcarried carried hmapped).mp h⟩
  · rintro ⟨carried, hmapped, hmask⟩
    exact (hcarried carried hmapped).mpr hmask

/-! ## Blocks of leading octets -/

/-- The address with two leading octets and zero octets after them. -/
def leading (first second : UInt8) : V6 :=
  ofOctets #v[first, second, 0, 0, 0, 0, 0, 0, 0, 0, 0, 0, 0, 0, 0, 0]

/-- A block of no more than two octets, the base of which has no other bits set. -/
theorem inBlock_eq_inside {first second : UInt8} (hn : n ≤ 16)
    (hbase : ((leading first second).octets.mask n).toList.take 2 = [first, second]) :
    a.inBlock #v[first, second] n = a.inside (leading first second) n := by
  have htwo : ∀ x : Octets 16, x.mask n = (x.mask n).mask (8 * 2) := fun x => by
    rw [Octets.mask_mask, Nat.min_eq_left hn]
  rw [Bool.eq_iff_iff, inside_iff_mask, htwo a.octets, htwo (leading first second).octets,
    Octets.mask_eq_mask_iff_take (by decide : 2 ≤ 16), hbase]
  exact beq_iff_eq

theorem isLinkLocal_eq_inside : a.isLinkLocal = a.inside (leading 0xfe 0x80) 10 :=
  inBlock_eq_inside (by decide) (by decide +kernel)

theorem isMulticast_eq_inside : a.isMulticast = a.inside (leading 0xff 0) 8 := by
  rw [Bool.eq_iff_iff, inside_iff_mask, Octets.mask_eq_mask_iff_first (Nat.le_refl 8)]
  simp only [isMulticast, Octets.and_leadingOnes_of_le (Nat.le_refl 8), beq_iff_eq]
  rfl

theorem teredo_eq_inside : (a.transition == .teredo) = a.inside (leading 0x20 0x01) 32 := by
  rw [Bool.eq_iff_iff, inside_iff_mask, Octets.mask_eq_mask_iff_take (by decide : 4 ≤ 16),
    beq_iff_eq]
  unfold transition
  split
  · next h => exact iff_of_true rfl h
  · next h => exact iff_of_false (by split <;> nofun) h

theorem sixToFour_eq_inside :
    (a.transition == .sixToFour) = a.inside (leading 0x20 0x02) 16 := by
  rw [Bool.eq_iff_iff, inside_iff_mask, Octets.mask_eq_mask_iff_take (by decide : 2 ≤ 16),
    beq_iff_eq]
  unfold transition
  split
  · next hteredo =>
      -- the heads differ in their second octet, so the order of the two tests is of no account
      refine iff_of_false nofun fun hhead => ?_
      have htake := congrArg (List.take 2) hteredo
      rw [List.take_take, Nat.min_eq_left (by decide), hhead] at htake
      exact absurd htake (by decide)
  · split
    · next h => exact iff_of_true rfl h
    · next h => exact iff_of_false nofun h

/-- A block of full length is a single address. -/
theorem inside_full : a.inside base 128 = (a.octets == base.octets) := by
  rw [Bool.eq_iff_iff, inside_iff_mask, Octets.mask_eq_self (Nat.le_refl _),
    Octets.mask_eq_self (Nat.le_refl _), beq_iff_eq]

theorem isLoopback_eq_inside :
    a.isLoopback = (a.inside loopback 128 || a.inside (ofV4 (.ofParts 127 0 0 0)) 104) := by
  have hcarried : a.mapped?.any V4.isLoopback ↔ a.inside (ofV4 (.ofParts 127 0 0 0)) (96 + 8) := by
    simp only [inside_ofV4_iff, Option.any_eq_true, V4.isLoopback_iff]
  unfold isLoopback
  rw [Bool.or_comm, Bool.eq_iff_iff.mpr hcarried, inside_full]

theorem isPrivate_eq_inside :
    a.isPrivate = (a.isLoopback || a.inside (leading 0xfc 0) 7 ||
      a.inside (ofV4 (.ofParts 10 0 0 0)) 104 || a.inside (ofV4 (.ofParts 172 16 0 0)) 108 ||
      a.inside (ofV4 (.ofParts 192 168 0 0)) 112) := by
  have hcarried : a.mapped?.any V4.isPrivate ↔ a.mapped?.any V4.isLoopback ∨
      a.inside (ofV4 (.ofParts 10 0 0 0)) (96 + 8) ∨
      a.inside (ofV4 (.ofParts 172 16 0 0)) (96 + 12) ∨
      a.inside (ofV4 (.ofParts 192 168 0 0)) (96 + 16) := by
    simp only [inside_ofV4_iff, Option.any_eq_true, V4.isPrivate_iff, and_or_left, exists_or]
  have hblock : a.inBlock #v[0xfc, 0x00] 7 = a.inside (leading 0xfc 0) 7 :=
    inBlock_eq_inside (by decide) (by decide +kernel)
  have hloopback : a.mapped?.any V4.isLoopback → a.isLoopback := by
    intro h
    rw [isLoopback, h, Bool.true_or]
  rw [Bool.eq_iff_iff, isPrivate]
  simp only [Bool.or_eq_true, hcarried, hblock]
  -- carried loopback addresses are private twice over
  grind

theorem isRoutable_eq_inside :
    a.isRoutable = (a.inside (leading 0x20 0) 3 ||
      (a.isMulticast && a.octets.octet 1 &&& 0x0f == 0x0e)) := by
  have hblock : a.inBlock #v[0x20, 0x00] 3 = a.inside (leading 0x20 0) 3 :=
    inBlock_eq_inside (by decide) (by decide +kernel)
  rw [isRoutable, hblock]
  rfl

/-! ## Blocks by their texts -/

/-- Whether an address is a member of one of some networks, each given by its text. -/
def inSome (a : V6) (cidrs : List String) : Except Error Bool :=
  (cidrs.mapM a.inNetwork).map (·.any id)

theorem inSome_nil : a.inSome [] = .ok false := rfl

theorem inSome_cons (h : Network.parse cidr = .ok ⟨.v6 base, n⟩) :
    a.inSome (cidr :: cidrs) = (a.inSome cidrs).map (a.inside base n || ·) := by
  rw [inSome, inSome, List.mapM_cons, inNetwork_of_v6 h]
  cases cidrs.mapM a.inNetwork <;> rfl

theorem inSome_loopback :
    a.inSome ["::1/128", "::ffff:127.0.0.0/104"] = .ok a.isLoopback := by
  have hsingle : Network.parse "::1/128" = .ok ⟨.v6 loopback, 128⟩ := by decide +kernel
  have hmapped : Network.parse "::ffff:127.0.0.0/104" =
      .ok ⟨.v6 (ofV4 (.ofParts 127 0 0 0)), 104⟩ := by decide +kernel
  rw [inSome_cons hsingle, inSome_cons hmapped, inSome_nil, isLoopback_eq_inside]
  simp [Except.map]

theorem inSome_private :
    (a.inSome ["fc00::/7", "::ffff:10.0.0.0/104", "::ffff:172.16.0.0/108",
      "::ffff:192.168.0.0/112"]).map (a.isLoopback || ·) = .ok a.isPrivate := by
  have hlocal : Network.parse "fc00::/7" = .ok ⟨.v6 (leading 0xfc 0), 7⟩ := by decide +kernel
  have hten : Network.parse "::ffff:10.0.0.0/104" =
      .ok ⟨.v6 (ofV4 (.ofParts 10 0 0 0)), 104⟩ := by decide +kernel
  have htwelve : Network.parse "::ffff:172.16.0.0/108" =
      .ok ⟨.v6 (ofV4 (.ofParts 172 16 0 0)), 108⟩ := by decide +kernel
  have hsixteen : Network.parse "::ffff:192.168.0.0/112" =
      .ok ⟨.v6 (ofV4 (.ofParts 192 168 0 0)), 112⟩ := by decide +kernel
  rw [inSome_cons hlocal, inSome_cons hten, inSome_cons htwelve, inSome_cons hsixteen, inSome_nil,
    isPrivate_eq_inside]
  simp [Except.map, Bool.or_assoc]

/-- **Every class is a block or a few blocks.**  The tests on octets give the answers that the
texts of the blocks give when they are read, masked and compared, for every address in every
zone. -/
theorem classes_inNetwork (a : V6) :
    a.inNetwork "fe80::/10" = .ok a.isLinkLocal ∧
    a.inNetwork "ff00::/8" = .ok a.isMulticast ∧
    a.inNetwork "::ffff:0:0/96" = .ok a.isMapped ∧
    a.inNetwork "2001::/32" = .ok (a.transition == .teredo) ∧
    a.inNetwork "2002::/16" = .ok (a.transition == .sixToFour) ∧
    a.inSome ["::1/128", "::ffff:127.0.0.0/104"] = .ok a.isLoopback ∧
    (a.inSome ["fc00::/7", "::ffff:10.0.0.0/104", "::ffff:172.16.0.0/108",
      "::ffff:192.168.0.0/112"]).map (a.isLoopback || ·) = .ok a.isPrivate ∧
    (a.inNetwork "2000::/3").map (· || (a.isMulticast && a.octets.octet 1 &&& 0x0f == 0x0e)) =
      .ok a.isRoutable := by
  refine ⟨?_, ?_, ?_, ?_, ?_, inSome_loopback, inSome_private, ?_⟩
  · rw [isLinkLocal_eq_inside]
    exact inNetwork_of_v6 (by decide +kernel)
  · rw [isMulticast_eq_inside]
    exact inNetwork_of_v6 (by decide +kernel)
  · rw [isMapped_eq_inside .unspecified]
    exact inNetwork_of_v6 (by decide +kernel)
  · rw [teredo_eq_inside]
    exact inNetwork_of_v6 (by decide +kernel)
  · rw [sixToFour_eq_inside]
    exact inNetwork_of_v6 (by decide +kernel)
  · have hparse : Network.parse "2000::/3" = .ok ⟨.v6 (leading 0x20 0), 3⟩ := by decide +kernel
    rw [inNetwork_of_v6 hparse, isRoutable_eq_inside]
    rfl

end V6

end InetAddress
