import InetAddress.Proofs.Network.Members
import Mathlib.Data.Option.Basic

/-!
# The least network around two others

The common network of two networks is their least upper bound under containment.
The length it is given is the largest that both networks and their shared bits allow
(`Octets.le_common_iff`), and this alone decides which networks hold both
(`union_subset_iff`).  What is least is unique once it is masked (`IsHull.unique`), so
the algebra of common networks is that of unions of sets of members.
-/

namespace InetAddress

namespace V6

variable {a b c p q x : V6} {n m k l : Nat} {s t : Set V6}

/-! ## Hulls -/

/-- Of the networks that hold a set of addresses, `(p, l)` is the least, and `p` is
masked. -/
structure IsHull (s : Set V6) (p : V6) (l : Nat) : Prop where
  length_le : l ≤ 128
  holds : s ⊆ members p l
  least : ∀ q k, k ≤ 128 → s ⊆ members q k → k ≤ l ∧ members p l ⊆ members q k
  zone : p.zone = 0
  mask : p.mask l = .ok p

/-- A hull depends only on the networks that hold the set. -/
theorem isHull_congr (h : ∀ q k, k ≤ 128 → (s ⊆ members q k ↔ t ⊆ members q k)) :
    IsHull s p l ↔ IsHull t p l := by
  constructor
  · intro hs
    exact ⟨hs.length_le, (h p l hs.length_le).mp hs.holds,
      fun q k hk ht => hs.least q k hk ((h q k hk).mpr ht), hs.zone, hs.mask⟩
  · intro ht
    exact ⟨ht.length_le, (h p l ht.length_le).mpr ht.holds,
      fun q k hk hs => ht.least q k hk ((h q k hk).mp hs), ht.zone, ht.mask⟩

theorem IsHull.subset_iff (hs : IsHull s p l) (hk : k ≤ 128) :
    members p l ⊆ members q k ↔ s ⊆ members q k :=
  ⟨hs.holds.trans, fun h => (hs.least q k hk h).2⟩

theorem octets_eq_of_mask (hl : l ≤ 128) (h : p.mask l = .ok p) : p.octets = p.octets.mask l := by
  rw [mask_eq_ok hl] at h
  exact congrArg octets (Except.ok.inj h).symm

theorem IsHull.unique (hp : IsHull s p l) (hq : IsHull s q k) : p = q ∧ l = k := by
  obtain ⟨hkl, hsub⟩ := hp.least q k hq.length_le hq.holds
  obtain ⟨hlk, -⟩ := hq.least p l hp.length_le hp.holds
  have hlength : l = k := Nat.le_antisymm hlk hkl
  subst hlength
  have hmember := hsub (self_mem_members p hp.length_le)
  have hoctets : p.octets = q.octets := by
    calc p.octets
        _ = p.octets.mask l := octets_eq_of_mask hp.length_le hp.mask
        _ = q.octets.mask l := Octets.mask_eq_mask_iff.mpr (mem_members_iff.mp hmember).2
        _ = q.octets := (octets_eq_of_mask hq.length_le hq.mask).symm
  refine ⟨?_, rfl⟩
  cases p
  cases q
  exact V6.mk.injEq .. ▸ ⟨hoctets, hp.zone.trans hq.zone.symm⟩

/-- A network is the hull of its members, with its address masked. -/
theorem isHull_members (a : V6) (hn : n ≤ 128) :
    IsHull (members a n) (ofOctets (a.octets.mask n)) n := by
  have hbase : a ∈ members (ofOctets (a.octets.mask n)) n := by
    refine mem_members_iff.mpr ⟨hn, fun i hi => ?_⟩
    rw [octets_ofOctets, Octets.bit_mask, decide_eq_true hi, Bool.and_true]
  refine ⟨hn, (members_subset_iff hn).mpr ⟨Nat.le_refl n, hbase⟩, fun q k _ hsub => ?_, rfl, ?_⟩
  · obtain ⟨hkn, ha⟩ := (members_subset_iff hn).mp hsub
    exact ⟨hkn, (members_subset_iff hn).mpr
      ⟨hkn, mem_members_trans (mem_members_comm.mp hbase) ha hkn⟩⟩
  · rw [mask_eq_ok hn, octets_ofOctets, Octets.mask_mask, Nat.min_self]

/-! ## The common network -/

/-- The networks that hold two networks are those that hold one of them, cut down to the common
length. -/
theorem union_subset_iff (hn : n ≤ 128) (hm : m ≤ 128) (hk : k ≤ 128) :
    members a n ∪ members b m ⊆ members q k ↔
      members a (Octets.common a.octets n b.octets m).2 ⊆ members q k := by
  have hle : (Octets.common a.octets n b.octets m).2 ≤ n :=
    (Octets.le_common_iff.mp (Nat.le_refl _)).1
  -- both sides say what a network of length `k` must share with `a` and with `b`
  rw [Set.union_subset_iff, members_subset_iff hn, members_subset_iff hm,
    members_subset_iff (hle.trans hn), Octets.le_common_iff]
  constructor
  · intro h
    obtain ⟨⟨hkn, ha⟩, hkm, hb⟩ := h
    have hab : a ∈ members b k := mem_members_trans ha (mem_members_comm.mp hb) (Nat.le_refl k)
    exact ⟨⟨hkn, hkm, hk, (mem_members_iff.mp hab).2⟩, ha⟩
  · intro h
    obtain ⟨⟨hkn, hkm, -, hab⟩, ha⟩ := h
    have hb : b ∈ members a k := mem_members_comm.mp (mem_members_iff.mpr ⟨hk, hab⟩)
    exact ⟨⟨hkn, ha⟩, hkm, mem_members_trans hb ha (Nat.le_refl k)⟩

/-- The common bits are those of `a` up to the common length, so the hull of this one network is
the hull of both. -/
theorem isHull_common (hn : n ≤ 128) (hm : m ≤ 128) :
    IsHull (members a n ∪ members b m) (ofOctets (Octets.common a.octets n b.octets m).1)
      (Octets.common a.octets n b.octets m).2 := by
  have hle : (Octets.common a.octets n b.octets m).2 ≤ 128 :=
    (Octets.le_common_iff.mp (Nat.le_refl _)).2.2.1
  rw [isHull_congr fun q k hk => union_subset_iff hn hm hk]
  exact isHull_members a hle

/-- The common network is found for lengths of 128 at most, and it is the hull. -/
theorem commonNetwork_eq_ok_iff :
    commonNetwork a n b m = .ok (p, l) ↔
      n ≤ 128 ∧ m ≤ 128 ∧ IsHull (members a n ∪ members b m) p l := by
  unfold commonNetwork
  constructor
  · intro h
    split at h
    · cases h
    · split at h
      · cases h
      · next hn hm =>
          cases h
          exact ⟨Nat.le_of_not_lt hn, Nat.le_of_not_lt hm,
            isHull_common (Nat.le_of_not_lt hn) (Nat.le_of_not_lt hm)⟩
  · intro h
    obtain ⟨hn, hm, hhull⟩ := h
    obtain ⟨rfl, rfl⟩ := hhull.unique (isHull_common hn hm)
    rw [if_neg (Nat.not_lt.mpr hn), if_neg (Nat.not_lt.mpr hm)]

theorem commonNetwork_eq_error_iff {e : Error} :
    commonNetwork a n b m = .error e ↔
      128 < n ∧ e = .tooLong n 128 ∨ n ≤ 128 ∧ 128 < m ∧ e = .tooLong m 128 := by
  unfold commonNetwork
  split
  · next hn =>
      rw [Except.error.injEq, eq_comm]
      constructor
      · intro he
        exact .inl ⟨hn, he⟩
      · rintro (⟨-, he⟩ | ⟨hle, -⟩)
        · exact he
        · omega
  · split
    · next hn hm =>
        rw [Except.error.injEq, eq_comm]
        constructor
        · intro he
          exact .inr ⟨Nat.le_of_not_lt hn, hm, he⟩
        · rintro (⟨hlt, -⟩ | ⟨-, -, he⟩)
          · exact absurd hlt hn
          · exact he
    · next hn hm =>
        constructor
        · intro h
          cases h
        · rintro (⟨hlt, -⟩ | ⟨-, hlt, -⟩)
          · exact absurd hlt hn
          · exact absurd hlt hm

/-! ## The algebra of common networks -/

theorem toOption_commonNetwork_eq_some_iff {r : V6 × Nat} :
    (commonNetwork a n b m).toOption = some r ↔
      n ≤ 128 ∧ m ≤ 128 ∧ IsHull (members a n ∪ members b m) r.1 r.2 := by
  rw [← commonNetwork_eq_ok_iff]
  cases commonNetwork a n b m with
  | error e => simp [Except.toOption]
  | ok shared => rw [Except.ok.injEq, Except.toOption, Option.some.injEq]

theorem commonNetwork_comm (a : V6) (n : Nat) (b : V6) (m : Nat) :
    (commonNetwork a n b m).toOption = (commonNetwork b m a n).toOption := by
  ext r
  rw [toOption_commonNetwork_eq_some_iff, toOption_commonNetwork_eq_some_iff, Set.union_comm,
    and_left_comm]

/-- Three networks in a row have the hull of all their members. -/
theorem commonNetwork_bind_eq_some_iff {r : V6 × Nat} :
    ((commonNetwork a n b m).toOption.bind fun shared =>
        (commonNetwork shared.1 shared.2 c k).toOption) = some r ↔
      n ≤ 128 ∧ m ≤ 128 ∧ k ≤ 128 ∧
        IsHull (members a n ∪ members b m ∪ members c k) r.1 r.2 := by
  -- a network holds the first two just when it holds their common network
  have hunion : ∀ shared : V6 × Nat,
      IsHull (members a n ∪ members b m) shared.1 shared.2 →
        (IsHull (members shared.1 shared.2 ∪ members c k) r.1 r.2 ↔
          IsHull (members a n ∪ members b m ∪ members c k) r.1 r.2) := by
    intro shared hshared
    apply isHull_congr
    intro q j hj
    rw [Set.union_subset_iff, Set.union_subset_iff, hshared.subset_iff hj]
  rw [Option.bind_eq_some_iff]
  constructor
  · intro h
    obtain ⟨shared, hfirst, hsecond⟩ := h
    obtain ⟨hn, hm, hshared⟩ := toOption_commonNetwork_eq_some_iff.mp hfirst
    obtain ⟨-, hk, hr⟩ := toOption_commonNetwork_eq_some_iff.mp hsecond
    exact ⟨hn, hm, hk, (hunion shared hshared).mp hr⟩
  · intro h
    obtain ⟨hn, hm, hk, hr⟩ := h
    have hshared := isHull_common (a := a) (b := b) hn hm
    refine ⟨(_, _), toOption_commonNetwork_eq_some_iff.mpr ⟨hn, hm, hshared⟩, ?_⟩
    exact toOption_commonNetwork_eq_some_iff.mpr
      ⟨hshared.length_le, hk, (hunion (_, _) hshared).mpr hr⟩

theorem commonNetwork_assoc (a : V6) (n : Nat) (b : V6) (m : Nat) (c : V6) (k : Nat) :
    ((commonNetwork a n b m).toOption.bind fun shared =>
        (commonNetwork shared.1 shared.2 c k).toOption) =
      (commonNetwork b m c k).toOption.bind fun shared =>
        (commonNetwork a n shared.1 shared.2).toOption := by
  have hswap : (fun shared : V6 × Nat => (commonNetwork a n shared.1 shared.2).toOption) =
      fun shared => (commonNetwork shared.1 shared.2 a n).toOption :=
    funext fun shared => commonNetwork_comm a n shared.1 shared.2
  have hunion : members b m ∪ members c k ∪ members a n =
      members a n ∪ members b m ∪ members c k := by
    rw [Set.union_comm, Set.union_assoc]
  ext r
  rw [hswap, commonNetwork_bind_eq_some_iff, commonNetwork_bind_eq_some_iff, hunion]
  constructor
  · intro h
    obtain ⟨hn, hm, hk, hr⟩ := h
    exact ⟨hm, hk, hn, hr⟩
  · intro h
    obtain ⟨hm, hk, hn, hr⟩ := h
    exact ⟨hn, hm, hk, hr⟩

theorem commonNetwork_self (a : V6) (n : Nat) :
    commonNetwork a n a n = (a.mask n).map (·, n) := by
  by_cases hn : n ≤ 128
  · rw [mask_eq_ok hn]
    refine commonNetwork_eq_ok_iff.mpr ⟨hn, hn, ?_⟩
    rw [Set.union_self]
    exact isHull_members a hn
  · have hmask : a.mask n = .error (.tooLong n 128) := if_neg hn
    rw [hmask]
    exact commonNetwork_eq_error_iff.mpr (.inl ⟨Nat.lt_of_not_le hn, rfl⟩)

/-- Members are the addresses that do not make the common network any shorter. -/
theorem mem_members_iff_commonNetwork :
    x ∈ members a n ↔ ∃ p, commonNetwork x 128 a n = .ok (p, n) := by
  constructor
  · intro hx
    have hn := (mem_members_iff.mp hx).1
    have hsub : members x 128 ⊆ members a n :=
      (members_subset_iff (Nat.le_refl 128)).mpr ⟨hn, hx⟩
    refine ⟨ofOctets (a.octets.mask n), commonNetwork_eq_ok_iff.mpr ⟨Nat.le_refl 128, hn, ?_⟩⟩
    rw [Set.union_eq_self_of_subset_left hsub]
    exact isHull_members a hn
  · intro h
    obtain ⟨p, hp⟩ := h
    obtain ⟨-, hn, hhull⟩ := commonNetwork_eq_ok_iff.mp hp
    have hx : x ∈ members p n := hhull.holds (.inl (self_mem_members x (Nat.le_refl 128)))
    have ha : a ∈ members p n := hhull.holds (.inr (self_mem_members a hn))
    exact mem_members_trans hx (mem_members_comm.mp ha) (Nat.le_refl n)

/-- **The common network is the least upper bound of two networks.**  It is found just when both
lengths are 128 at most, and otherwise the first length that is not is reported.  Up to
that report it does not depend on the order or the grouping of networks.  A network has
itself in common with itself, masked, and with its members a network of its own length. -/
theorem commonNetwork_hull (a b c : V6) (n m k : Nat) :
    (∀ e, commonNetwork a n b m = .error e ↔
      128 < n ∧ e = .tooLong n 128 ∨ n ≤ 128 ∧ 128 < m ∧ e = .tooLong m 128) ∧
    (∀ p l, commonNetwork a n b m = .ok (p, l) ↔
      n ≤ 128 ∧ m ≤ 128 ∧ IsHull (members a n ∪ members b m) p l) ∧
    (commonNetwork a n b m).toOption = (commonNetwork b m a n).toOption ∧
    ((commonNetwork a n b m).toOption.bind fun shared =>
        (commonNetwork shared.1 shared.2 c k).toOption) =
      ((commonNetwork b m c k).toOption.bind fun shared =>
        (commonNetwork a n shared.1 shared.2).toOption) ∧
    commonNetwork a n a n = (a.mask n).map (·, n) ∧
    (b ∈ members a n ↔ ∃ p, commonNetwork b 128 a n = .ok (p, n)) :=
  ⟨fun _ => commonNetwork_eq_error_iff, fun _ _ => commonNetwork_eq_ok_iff,
    commonNetwork_comm a n b m, commonNetwork_assoc a n b m c k, commonNetwork_self a n,
    mem_members_iff_commonNetwork⟩

end V6

end InetAddress
