import InetAddress.Proofs.Network.Exclusion

/-!
# Classes of IPv4 addresses

Each class of IPv4 addresses is a block or a few, and no two of the blocks overlap:

```text
0.0.0.0/8         unspecified
10.0.0.0/8        private
127.0.0.0/8       loopback, and so private
169.254.0.0/16    link-local
172.16.0.0/12     private
192.168.0.0/16    private
224.0.0.0/4       multicast
```

A class is told by an octet or two, of which the test may look at four bits only, and a block by
what a mask leaves of an address.  Where a mask ends within an octet, these are the same bits
(`Octets.mask_eq_mask_iff_first`, `Octets.mask_eq_mask_iff_second`).

That classes exclude each other is not read off the octets again.  Their blocks are mapped to blocks
of IPv6 addresses (`Class.within_mappedBlocks`), and of these it is known what it means to be apart.
-/

namespace InetAddress.V4

open V6 (ofV4)

variable {v : V4} {b : V4 × Nat}

/-! ## Tests on octets -/

theorem isMulticast_iff :
    v.isMulticast ↔ v.octets.mask 4 = (ofParts 224 0 0 0).octets.mask 4 := by
  rw [Octets.mask_eq_mask_iff_first (by decide : 4 ≤ 8)]
  exact beq_iff_eq

theorem isUnspecified_iff :
    v.isUnspecified ↔ v.octets.mask 8 = (ofParts 0 0 0 0).octets.mask 8 := by
  rw [Octets.mask_eq_mask_iff_first (Nat.le_refl 8)]
  simp only [Octets.and_leadingOnes_of_le (Nat.le_refl 8)]
  exact beq_iff_eq

theorem isLinkLocal_iff :
    v.isLinkLocal ↔ v.octets.mask 16 = (ofParts 169 254 0 0).octets.mask 16 := by
  rw [Octets.mask_eq_mask_iff_second (Nat.le_refl 8)]
  simp only [Octets.and_leadingOnes_of_le (Nat.le_refl 8), isLinkLocal, Bool.and_eq_true,
    beq_iff_eq]
  rfl

/-! ## Classes and their blocks -/

/-- The classes of IPv4 addresses. -/
inductive Class where
  | multicast
  | unspecified
  | linkLocal
  | loopback
  | privateUse

namespace Class

variable {c d : Class}

/-- Whether an address is in a class. -/
def has : Class → V4 → Bool
  | multicast, v => v.isMulticast
  | unspecified, v => v.isUnspecified
  | linkLocal, v => v.isLinkLocal
  | loopback, v => v.isLoopback
  | privateUse, v => v.isPrivate

/-- The blocks of a class, each given by its base and its length. -/
def blocks : Class → List (V4 × Nat)
  | multicast => [(ofParts 224 0 0 0, 4)]
  | unspecified => [(ofParts 0 0 0 0, 8)]
  | linkLocal => [(ofParts 169 254 0 0, 16)]
  | loopback => [(ofParts 127 0 0 0, 8)]
  | privateUse => [(ofParts 127 0 0 0, 8), (ofParts 10 0 0 0, 8), (ofParts 172 16 0 0, 12),
      (ofParts 192 168 0 0, 16)]

/-- The bases are masked already, so a mask takes the members of a block to its base. -/
theorem mask_eq_base_iff (hb : b ∈ c.blocks) :
    v.mask b.2 = .ok b.1 ↔ v.octets.mask b.2 = b.1.octets.mask b.2 := by
  have hmasked : ∀ b ∈ c.blocks, b.2 ≤ 32 ∧ b.1.octets.mask b.2 = b.1.octets := by
    cases c <;> decide +kernel
  obtain ⟨hlength, hbase⟩ := hmasked b hb
  rw [mask_eq_ok hlength, Except.ok.injEq, hbase]
  exact ⟨fun h => h ▸ rfl, congrArg V4.mk⟩

theorem has_iff_mask (c : Class) (v : V4) :
    c.has v ↔ ∃ b ∈ c.blocks, v.octets.mask b.2 = b.1.octets.mask b.2 := by
  cases c with
  | multicast => simpa [has, blocks] using isMulticast_iff
  | unspecified => simpa [has, blocks] using isUnspecified_iff
  | linkLocal => simpa [has, blocks] using isLinkLocal_iff
  | loopback => simpa [has, blocks] using isLoopback_iff
  | privateUse => simpa [has, blocks, isLoopback_iff] using isPrivate_iff

theorem has_iff_blocks (c : Class) (v : V4) : c.has v ↔ ∃ b ∈ c.blocks, v.mask b.2 = .ok b.1 := by
  rw [has_iff_mask]
  exact exists_congr fun b => and_congr_right fun hb => (mask_eq_base_iff hb).symm

/-! ## Exclusion -/

/-- The blocks of a class among the mapped addresses. -/
def mappedBlocks (c : Class) : List (V6 × Nat) :=
  c.blocks.map fun b => (ofV4 b.1, 96 + b.2)

theorem within_mappedBlocks (h : c.has v) : (ofV4 v).within c.mappedBlocks := by
  obtain ⟨b, hb, hmask⟩ := (has_iff_mask c v).mp h
  have hinside : (ofV4 v).inside (ofV4 b.1) (96 + b.2) :=
    V6.inside_ofV4_iff.mpr ⟨v, V6.mapped?_ofV4 v, hmask⟩
  exact V6.within_iff.mpr ⟨_, List.mem_map_of_mem hb, hinside⟩

theorem not_has_of_apart (h : V6.Apart c.mappedBlocks d.mappedBlocks) (hc : c.has v) : ¬ d.has v :=
  fun hd => h.not_within (within_mappedBlocks hc) (within_mappedBlocks hd)

end Class

theorem count_classes_le_one (v : V4) :
    [v.isMulticast, v.isUnspecified, v.isLinkLocal, v.isPrivate].count true ≤ 1 := by
  have hapart : [Class.multicast, .unspecified, .linkLocal, .privateUse].Pairwise
      fun c d => V6.Apart c.mappedBlocks d.mappedBlocks := by
    decide +kernel
  have hone := countP_le_one (hapart.imp (Class.not_has_of_apart (v := v)))
  simpa [List.count, List.countP_cons, Class.has] using hone

/-- **The classes of IPv4 addresses are blocks**: an address is in a class just when a mask takes it
to the base of a block of the class.  Private addresses are loopback addresses and three blocks
more.  Multicast, unspecified, link-local and private addresses exclude each other. -/
theorem classes_mask_disjoint (v : V4) :
    (v.isMulticast ↔ v.mask 4 = .ok (ofParts 224 0 0 0)) ∧
    (v.isUnspecified ↔ v.mask 8 = .ok (ofParts 0 0 0 0)) ∧
    (v.isLinkLocal ↔ v.mask 16 = .ok (ofParts 169 254 0 0)) ∧
    (v.isLoopback ↔ v.mask 8 = .ok (ofParts 127 0 0 0)) ∧
    (v.isPrivate ↔ v.isLoopback ∨ v.mask 8 = .ok (ofParts 10 0 0 0) ∨
      v.mask 12 = .ok (ofParts 172 16 0 0) ∨ v.mask 16 = .ok (ofParts 192 168 0 0)) ∧
    [v.isMulticast, v.isUnspecified, v.isLinkLocal, v.isPrivate].count true ≤ 1 := by
  have hloopback : v.isLoopback ↔ v.mask 8 = .ok (ofParts 127 0 0 0) := by
    simpa [Class.has, Class.blocks] using Class.has_iff_blocks .loopback v
  refine ⟨?_, ?_, ?_, hloopback, ?_, count_classes_le_one v⟩
  · simpa [Class.has, Class.blocks] using Class.has_iff_blocks .multicast v
  · simpa [Class.has, Class.blocks] using Class.has_iff_blocks .unspecified v
  · simpa [Class.has, Class.blocks] using Class.has_iff_blocks .linkLocal v
  · rw [hloopback]
    simpa [Class.has, Class.blocks] using Class.has_iff_blocks .privateUse v

end InetAddress.V4
