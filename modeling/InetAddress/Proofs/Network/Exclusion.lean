import InetAddress.Proofs.Network.Blocks
import InetAddress.Proofs.Octets.Order

/-!
# Which classes exclude each other

Each class is one block of addresses or a few, so two classes are compared by comparing
their blocks, of which there are finitely many.  Of two blocks one lies in the other or
they are apart, and the base of the longer one tells which (`inside_iff_of_inside`).  The
blocks, in the order of their numbers:

```text
::/8                    unspecified, loopback, mapped, and the mapped private blocks
2000::/3                global unicast, with Teredo and 6to4
fc00::/7                private
fe80::/10               link-local
ff00::/8                multicast, with ff02::1
```

Routable addresses are no union of so few blocks: among the multicast addresses they are told
by four bits in the middle of the second octet.  They are global unicast or multicast, and for
exclusion that is enough.
-/

namespace InetAddress

/-- Of tests that exclude each other one succeeds at most. -/
theorem countP_le_one {α : Type} {p : α → Bool} {tests : List α}
    (h : tests.Pairwise fun x y => p x → ¬ p y) : tests.countP p ≤ 1 := by
  induction tests with
  | nil => exact Nat.zero_le 1
  | cons x tests ih =>
      obtain ⟨hx, htests⟩ := List.pairwise_cons.mp h
      by_cases hp : p x
      · have hnone : tests.countP p = 0 :=
          List.countP_eq_zero.mpr fun y hy => hx y hy hp
        rw [List.countP_cons, if_pos hp, hnone]
      · rw [List.countP_cons, if_neg hp]
        exact ih htests

namespace V6

variable {a s t : V6} {n m : Nat} {bs cs : List (V6 × Nat)}

/-! ## Blocks and lists of blocks -/

/-- Of a shorter block an address is a member just when the base of its own block is. -/
theorem inside_iff_of_inside (h : a.inside t m) (hnm : n ≤ m) :
    a.inside s n ↔ t.inside s n := by
  rw [inside_iff_mask, inside_iff_mask, Octets.mask_eq_mask_of_le (inside_iff_mask.mp h) hnm]

/-- Whether an address is in one of some blocks, each given by its base and its length. -/
def within (a : V6) (bs : List (V6 × Nat)) : Bool :=
  bs.any fun b => a.inside b.1 b.2

/-- No block of the one list agrees with a block of the other on the bits that both fix. -/
def Apart (bs cs : List (V6 × Nat)) : Prop :=
  ∀ b ∈ bs, ∀ c ∈ cs, ¬ b.1.inside c.1 (min b.2 c.2)

/-- Each block of the one list lies in a block of the other. -/
def Covered (bs cs : List (V6 × Nat)) : Prop :=
  ∀ b ∈ bs, ∃ c ∈ cs, c.2 ≤ b.2 ∧ b.1.inside c.1 c.2

theorem inside_iff_value :
    a.inside s n ↔ a.octets.value / 2 ^ (128 - n) = s.octets.value / 2 ^ (128 - n) := by
  rw [inside_iff_mask, Octets.mask_eq_mask_iff_value]

-- numbers are quicker to divide than octets are to mask
instance : Decidable (Apart bs cs) :=
  decidable_of_iff (∀ b ∈ bs, ∀ c ∈ cs, b.1.octets.value / 2 ^ (128 - min b.2 c.2) ≠
      c.1.octets.value / 2 ^ (128 - min b.2 c.2)) <| by
    simp only [Apart, inside_iff_value, ne_eq]

instance : Decidable (Covered bs cs) :=
  decidable_of_iff (∀ b ∈ bs, ∃ c ∈ cs, c.2 ≤ b.2 ∧
      b.1.octets.value / 2 ^ (128 - c.2) = c.1.octets.value / 2 ^ (128 - c.2)) <| by
    simp only [Covered, inside_iff_value]

theorem within_iff : a.within bs ↔ ∃ b ∈ bs, a.inside b.1 b.2 :=
  List.any_eq_true

theorem within_singleton : a.within [(s, n)] = a.inside s n := by
  simp [within]

theorem Apart.not_within (h : Apart bs cs) (ha : a.within bs) : ¬ a.within cs := by
  intro hother
  obtain ⟨b, hb, hinside⟩ := within_iff.mp ha
  obtain ⟨c, hc, hinsideOther⟩ := within_iff.mp hother
  refine h b hb c hc ?_
  rw [← inside_iff_of_inside hinside (Nat.min_le_left _ _), inside_iff_mask]
  exact Octets.mask_eq_mask_of_le (inside_iff_mask.mp hinsideOther) (Nat.min_le_right _ _)

theorem Covered.within (h : Covered bs cs) (ha : a.within bs) : a.within cs := by
  obtain ⟨b, hb, hinside⟩ := within_iff.mp ha
  obtain ⟨c, hc, hle, hbase⟩ := h b hb
  exact within_iff.mpr ⟨c, hc, (inside_iff_of_inside hinside hle).mpr hbase⟩

/-! ## Classes and their blocks -/

/-- The classes that are one block or a few. -/
inductive Class where
  | unspecified
  | mapped
  | loopback
  | privateUse
  | linkLocal
  | multicast
  | allNodes
  | globalUnicast
  | teredo
  | sixToFour
deriving DecidableEq

namespace Class

variable {c d : Class}

/-- Whether an address is in a class. -/
def has : Class → V6 → Bool
  | unspecified, a => a.isZero
  | mapped, a => a.isMapped
  | loopback, a => a.isLoopback
  | privateUse, a => a.isPrivate
  | linkLocal, a => a.isLinkLocal
  | multicast, a => a.isMulticast
  | allNodes, a => a.isLinkLocalBroadcast
  | globalUnicast, a => a.isRoutable && !a.isMulticast
  | teredo, a => a.transition == .teredo
  | sixToFour, a => a.transition == .sixToFour

/-- The blocks of loopback addresses, which are private as well. -/
def loopbackBlocks : List (V6 × Nat) :=
  [(V6.loopback, 128), (ofV4 (.ofParts 127 0 0 0), 104)]

/-- The blocks of a class. -/
def blocks : Class → List (V6 × Nat)
  | unspecified => [(V6.unspecified, 128)]
  | mapped => [(ofV4 .unspecified, 96)]
  | loopback => loopbackBlocks
  | privateUse => loopbackBlocks ++ [(leading 0xfc 0, 7), (ofV4 (.ofParts 10 0 0 0), 104),
      (ofV4 (.ofParts 172 16 0 0), 108), (ofV4 (.ofParts 192 168 0 0), 112)]
  | linkLocal => [(leading 0xfe 0x80, 10)]
  | multicast => [(leading 0xff 0, 8)]
  | allNodes => [(V6.allNodes, 128)]
  | globalUnicast => [(leading 0x20 0, 3)]
  | teredo => [(leading 0x20 0x01, 32)]
  | sixToFour => [(leading 0x20 0x02, 16)]

/-- Pairs of classes that exclude each other. -/
def exclusions : List (Class × Class) :=
  [(privateUse, linkLocal), (privateUse, multicast), (privateUse, globalUnicast),
    (linkLocal, multicast), (linkLocal, globalUnicast), (multicast, globalUnicast),
    (mapped, linkLocal), (mapped, multicast), (mapped, globalUnicast), (mapped, teredo),
    (mapped, sixToFour), (unspecified, mapped), (unspecified, loopback),
    (unspecified, privateUse), (unspecified, linkLocal), (unspecified, multicast),
    (unspecified, allNodes), (unspecified, globalUnicast), (unspecified, teredo),
    (unspecified, sixToFour)]

/-- Pairs of classes the first of which lies in the second. -/
def inclusions : List (Class × Class) :=
  [(loopback, privateUse), (allNodes, multicast), (teredo, globalUnicast),
    (sixToFour, globalUnicast)]

theorem apart_of_mem (h : (c, d) ∈ exclusions) : Apart c.blocks d.blocks := by
  have hall : ∀ p ∈ exclusions, Apart p.1.blocks p.2.blocks := by decide +kernel
  exact hall (c, d) h

theorem covered_of_mem (h : (c, d) ∈ inclusions) : Covered c.blocks d.blocks := by
  have hall : ∀ p ∈ inclusions, Covered p.1.blocks p.2.blocks := by decide +kernel
  exact hall (c, d) h

end Class

/-- Multicast addresses are not in `2000::/3`, so what is routable without them is that block. -/
theorem globalUnicast_eq_inside :
    (a.isRoutable && !a.isMulticast) = a.inside (leading 0x20 0) 3 := by
  have happart : Apart Class.multicast.blocks Class.globalUnicast.blocks :=
    Class.apart_of_mem (by simp [Class.exclusions])
  rw [isRoutable_eq_inside]
  cases hmulticast : a.isMulticast with
  | false => simp
  | true =>
      rw [isMulticast_eq_inside, ← within_singleton] at hmulticast
      have hnot := happart.not_within hmulticast
      rw [Class.blocks, within_singleton, Bool.not_eq_true] at hnot
      simp [hnot]

theorem Class.has_eq_within (c : Class) (a : V6) : c.has a = a.within c.blocks := by
  cases c with
  | unspecified => rw [blocks, within_singleton, inside_full]; rfl
  | mapped => rw [blocks, within_singleton, ← isMapped_eq_inside]; rfl
  | loopback => simp [has, blocks, loopbackBlocks, within, isLoopback_eq_inside]
  | privateUse =>
      simp [has, blocks, loopbackBlocks, within, isPrivate_eq_inside, isLoopback_eq_inside,
        Bool.or_assoc]
  | linkLocal => rw [blocks, within_singleton, ← isLinkLocal_eq_inside]; rfl
  | multicast => rw [blocks, within_singleton, ← isMulticast_eq_inside]; rfl
  | allNodes => rw [blocks, within_singleton, inside_full]; rfl
  | globalUnicast => rw [blocks, within_singleton, ← globalUnicast_eq_inside]; rfl
  | teredo => rw [blocks, within_singleton, ← teredo_eq_inside]; rfl
  | sixToFour => rw [blocks, within_singleton, ← sixToFour_eq_inside]; rfl

/-! ## Exclusion and inclusion -/

namespace Class

variable {c d : Class}

theorem not_has_of_mem (h : (c, d) ∈ exclusions) (ha : c.has a) : ¬ d.has a := by
  rw [has_eq_within] at ha ⊢
  exact (apart_of_mem h).not_within ha

theorem has_of_mem (h : (c, d) ∈ inclusions) (ha : c.has a) : d.has a := by
  rw [has_eq_within] at ha ⊢
  exact (covered_of_mem h).within ha

/-- Of classes that exclude each other an address is in one at most. -/
theorem countP_has_le_one {classes : List Class}
    (h : classes.Pairwise fun c d => (c, d) ∈ exclusions) :
    classes.countP (·.has a) ≤ 1 :=
  countP_le_one (h.imp not_has_of_mem)

end Class

/-! ## Routable addresses and transitions -/

theorem globalUnicast_iff : Class.globalUnicast.has a ↔ a.isRoutable ∧ ¬ a.isMulticast := by
  rw [Class.has, Bool.and_eq_true, Bool.not_eq_true', Bool.not_eq_true]

namespace Class

variable {c : Class}

/-- A routable address is global unicast or multicast. -/
theorem not_isRoutable_of_mem (hunicast : (c, globalUnicast) ∈ exclusions)
    (hmulticast : (c, multicast) ∈ exclusions) (ha : c.has a) : ¬ a.isRoutable := by
  intro hroutable
  have hnot : ¬ a.isMulticast := not_has_of_mem hmulticast ha
  exact not_has_of_mem hunicast ha (globalUnicast_iff.mpr ⟨hroutable, hnot⟩)

theorem transition_eq_none_of_mem (hteredo : (c, teredo) ∈ exclusions)
    (hsixToFour : (c, sixToFour) ∈ exclusions) (ha : c.has a) : a.transition = .none := by
  have hnotTeredo := not_has_of_mem hteredo ha
  have hnotSixToFour := not_has_of_mem hsixToFour ha
  cases h : a.transition with
  | none => rfl
  | teredo => exact absurd (beq_iff_eq.mpr h) hnotTeredo
  | sixToFour => exact absurd (beq_iff_eq.mpr h) hnotSixToFour

end Class

/-! ## One class after the other -/

/-- No address is in two of the four great classes. -/
theorem count_great_classes_le_one (a : V6) :
    [a.isPrivate, a.isLinkLocal, a.isMulticast, a.isRoutable && !a.isMulticast].count true ≤ 1 := by
  have hone : [Class.privateUse, .linkLocal, .multicast, .globalUnicast].countP (·.has a) ≤ 1 :=
    Class.countP_has_le_one (by decide)
  simpa [List.count, List.countP_cons, Class.has] using hone

/-- Teredo and 6to4 addresses are global unicast. -/
theorem globalUnicast_of_transition (h : a.transition ≠ .none) :
    a.isRoutable ∧ ¬ a.isMulticast := by
  rw [← globalUnicast_iff]
  cases htransition : a.transition with
  | none => exact absurd htransition h
  | teredo => exact Class.has_of_mem (c := .teredo) (by decide) (beq_iff_eq.mpr htransition)
  | sixToFour => exact Class.has_of_mem (c := .sixToFour) (by decide) (beq_iff_eq.mpr htransition)

theorem isPrivate_of_isLoopback (h : a.isLoopback) : a.isPrivate :=
  Class.has_of_mem (c := .loopback) (d := .privateUse) (by decide) h

theorem not_isRoutable_of_isPrivate (h : a.isPrivate) : ¬ a.isRoutable :=
  Class.not_isRoutable_of_mem (c := .privateUse) (by decide) (by decide) h

theorem not_isRoutable_of_isLinkLocal (h : a.isLinkLocal) : ¬ a.isRoutable :=
  Class.not_isRoutable_of_mem (c := .linkLocal) (by decide) (by decide) h

theorem not_isRoutable_of_isMapped (h : a.isMapped) : ¬ a.isRoutable :=
  Class.not_isRoutable_of_mem (c := .mapped) (by decide) (by decide) h

theorem transition_of_isMapped (h : a.isMapped) : a.transition = .none :=
  Class.transition_eq_none_of_mem (c := .mapped) (by decide) (by decide) h

theorem not_isMulticast_of_isMapped (h : a.isMapped) : ¬ a.isMulticast :=
  Class.not_has_of_mem (c := .mapped) (d := .multicast) (by decide) h

theorem not_isLinkLocal_of_isMapped (h : a.isMapped) : ¬ a.isLinkLocal :=
  Class.not_has_of_mem (c := .mapped) (d := .linkLocal) (by decide) h

theorem isMulticast_of_isLinkLocalBroadcast (h : a.isLinkLocalBroadcast) : a.isMulticast :=
  Class.has_of_mem (c := .allNodes) (d := .multicast) (by decide) h

/-- All nodes of a link have a scope that is not global. -/
theorem isNonroutable_of_isLinkLocalBroadcast (h : a.isLinkLocalBroadcast) : a.isNonroutable := by
  have hall : a = allNodes.withZone a.zone := congrArg (mk · a.zone) (beq_iff_eq.mp h)
  rw [hall]
  exact (by decide +kernel : allNodes.isNonroutable = true)

/-- The address `::` is in no class but its own. -/
theorem not_has_of_isZero {d : Class} (h : a.isZero) (hd : d ≠ .unspecified) : ¬ d.has a := by
  refine Class.not_has_of_mem (c := .unspecified) ?_ h
  revert hd
  cases d <;> decide

theorem transition_of_isZero (h : a.isZero) : a.transition = .none :=
  Class.transition_eq_none_of_mem (c := .unspecified) (by decide) (by decide) h

theorem not_isRoutable_of_isZero (h : a.isZero) : ¬ a.isRoutable :=
  Class.not_isRoutable_of_mem (c := .unspecified) (by decide) (by decide) h

/-- **Classes exclude each other as their blocks do.**  No address is in two of the four great
classes, private, link-local, multicast and global unicast.  Loopback addresses are private;
Teredo and 6to4 addresses are global unicast, and never both; mapped addresses have no transition
and are neither routable nor multicast nor link-local; all nodes of a link are multicast and not
routable; and `::` is in no class but its own.  So nothing private is routable. -/
theorem classes_exclusive (a : V6) :
    [a.isPrivate, a.isLinkLocal, a.isMulticast, a.isRoutable && !a.isMulticast].count true ≤ 1 ∧
    (a.isLoopback → a.isPrivate) ∧
    (a.transition = .teredo → a.transition ≠ .sixToFour ∧ a.isRoutable ∧ ¬ a.isMulticast) ∧
    (a.transition = .sixToFour → a.transition ≠ .teredo ∧ a.isRoutable ∧ ¬ a.isMulticast) ∧
    (a.isMapped → a.transition = .none ∧ ¬ a.isRoutable ∧ ¬ a.isMulticast ∧ ¬ a.isLinkLocal) ∧
    (a.isLinkLocalBroadcast → a.isMulticast ∧ a.isNonroutable) ∧
    (a.isZero → a.transition = .none ∧ ¬ a.isMapped ∧ ¬ a.isLoopback ∧ ¬ a.isPrivate ∧
      ¬ a.isLinkLocal ∧ ¬ a.isMulticast ∧ ¬ a.isLinkLocalBroadcast ∧ ¬ a.isRoutable) ∧
    (a.isPrivate ∨ a.isLinkLocal ∨ a.isLoopback → ¬ a.isRoutable) := by
  refine ⟨count_great_classes_le_one a, isPrivate_of_isLoopback, fun h => ⟨h.trans_ne nofun, ?_⟩,
    fun h => ⟨h.trans_ne nofun, ?_⟩, fun h => ?_, fun h => ?_, fun h => ?_, fun h => ?_⟩
  · exact globalUnicast_of_transition (h.trans_ne nofun)
  · exact globalUnicast_of_transition (h.trans_ne nofun)
  · exact ⟨transition_of_isMapped h, not_isRoutable_of_isMapped h, not_isMulticast_of_isMapped h,
      not_isLinkLocal_of_isMapped h⟩
  · exact ⟨isMulticast_of_isLinkLocalBroadcast h, isNonroutable_of_isLinkLocalBroadcast h⟩
  · have hnot : ∀ d, d ≠ .unspecified → ¬ Class.has d a := fun d => not_has_of_isZero h
    exact ⟨transition_of_isZero h, hnot .mapped nofun, hnot .loopback nofun,
      hnot .privateUse nofun, hnot .linkLocal nofun, hnot .multicast nofun, hnot .allNodes nofun,
      not_isRoutable_of_isZero h⟩
  · rcases h with hprivate | hlinkLocal | hloopback
    · exact not_isRoutable_of_isPrivate hprivate
    · exact not_isRoutable_of_isLinkLocal hlinkLocal
    · exact not_isRoutable_of_isPrivate (isPrivate_of_isLoopback hloopback)

/-- A mapped loopback address, a 6to4 address, a Teredo address, all nodes of a link, and `::`. -/
theorem classes_of_five_addresses :
    let local4 := (ofV4 (.ofParts 127 0 0 1)).withZone 3
    let six := leading 0x20 0x02
    let tunnel := leading 0x20 0x01
    let zero := unspecified.withZone 7
    (local4.isMapped ∧ local4.isLoopback ∧ local4.isPrivate ∧ ¬ local4.isRoutable) ∧
      (six.transition = .sixToFour ∧ six.isRoutable) ∧
      (tunnel.transition = .teredo ∧ tunnel.isRoutable) ∧
      (allNodes.isLinkLocalBroadcast ∧ allNodes.isMulticast ∧ allNodes.isNonroutable) ∧
      zero.isZero ∧ ¬ zero.isPrivate ∧ ¬ zero.isRoutable := by
  intro local4 six tunnel zero
  obtain ⟨-, hloopback, -, -, hmapped, -, -, -⟩ := classes_exclusive local4
  obtain ⟨-, -, -, hsix, -⟩ := classes_exclusive six
  obtain ⟨-, -, htunnel, -⟩ := classes_exclusive tunnel
  obtain ⟨-, -, -, -, -, hall, -⟩ := classes_exclusive allNodes
  obtain ⟨-, -, -, -, -, -, hzero, -⟩ := classes_exclusive zero
  have hlocal4 : local4.isMapped := by decide
  have hlocal4Loopback : local4.isLoopback := by decide
  have hsixToFour : six.transition = .sixToFour := by decide
  have hteredo : tunnel.transition = .teredo := by decide
  have hallNodes : allNodes.isLinkLocalBroadcast := by decide
  have hunspecified : zero.isZero := by decide
  obtain ⟨-, -, -, hnotPrivate, -, -, -, hnotRoutable⟩ := hzero hunspecified
  exact ⟨⟨hlocal4, hlocal4Loopback, hloopback hlocal4Loopback, (hmapped hlocal4).2.1⟩,
    ⟨hsixToFour, (hsix hsixToFour).2.1⟩, ⟨hteredo, (htunnel hteredo).2.1⟩,
    ⟨hallNodes, hall hallNodes⟩, hunspecified, hnotPrivate, hnotRoutable⟩

end V6

end InetAddress
