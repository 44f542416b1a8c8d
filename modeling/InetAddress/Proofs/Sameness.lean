import InetAddress.Address
import Mathlib.Logic.Basic

/-!
# Sameness and digests agree

Sameness goes through keys, and digests do not: the digest of an IPv6 address asks
on its own whether the address is mapped.  Both come down to one relation on
octets, `Carries`: ten zero octets, two octets of ones, and the four octets of an
IPv4 address.  Whether an address carries one does not depend on its zone, so the
zone tells addresses apart only where there is nothing to carry.
-/

namespace InetAddress.Address

variable {a b : V6} {v w : V4}

/-! ## Carried addresses -/

/-- The IPv6 address `a` is in `::ffff:0:0/96`, with the octets of `v` at the end. -/
def Carries (a : V6) (v : V4) : Prop :=
  a.octets.toList = List.replicate 10 0 ++ [0xff, 0xff] ++ v.octets.toList

theorem carries_iff : Carries a v ↔ a.mapped? = some v := by
  rw [V6.mapped?_eq_some_iff, ← Vector.toList_inj, V6.toList_octets_ofV4]
  rfl

theorem key_of_carries (h : Carries a v) : key (.v6 a) = .v4 v := by
  simp only [key, carries_iff.mp h]

theorem key_of_not_carries (h : ∀ v, ¬ Carries a v) : key (.v6 a) = .v6 a := by
  cases hmapped : a.mapped? with
  | none => simp only [key, hmapped]
  | some v => exact absurd (carries_iff.mpr hmapped) (h v)

theorem carries_or (a : V6) : (∃ v, Carries a v) ∨ ∀ v, ¬ Carries a v := by
  rw [or_iff_not_imp_left]
  exact fun h v hv => h ⟨v, hv⟩

/-! ## When addresses are the same -/

theorem same_v4_iff : (v4 v).same (.v4 w) ↔ v = w := by
  rw [same_iff]
  exact v4.injEq v w ▸ Iff.rfl

theorem same_v4_v6_iff : (v4 v).same (.v6 a) ↔ Carries a v := by
  rw [same_iff]
  constructor
  · intro h
    obtain ⟨w, hw⟩ | hnone := carries_or a
    · rw [key_of_carries hw] at h
      cases h
      exact hw
    · rw [key_of_not_carries hnone] at h
      cases h
  · intro h
    exact (key_of_carries h).symm

theorem same_v6_iff_of_carries (ha : Carries a v) (hb : Carries b w) :
    (v6 a).same (.v6 b) ↔ v = w := by
  rw [same_iff, key_of_carries ha, key_of_carries hb, v4.injEq]

theorem same_v6_iff_of_not_carries (h : (∀ v, ¬ Carries a v) ∨ ∀ v, ¬ Carries b v) :
    (v6 a).same (.v6 b) ↔ a.octets = b.octets ∧ a.zone = b.zone := by
  have heq : a.octets = b.octets ∧ a.zone = b.zone ↔ a = b := by
    cases a
    cases b
    simp
  rw [heq, same_iff]
  constructor
  · intro hkey
    -- keys of two families differ, so neither address carries anything
    obtain ⟨v, hv⟩ | ha := carries_or a
    · have hb := h.resolve_left fun hnone => hnone v hv
      rw [key_of_carries hv, key_of_not_carries hb] at hkey
      cases hkey
    · obtain ⟨w, hw⟩ | hb := carries_or b
      · rw [key_of_not_carries ha, key_of_carries hw] at hkey
        cases hkey
      · rw [key_of_not_carries ha, key_of_not_carries hb] at hkey
        cases hkey
        rfl
  · rintro rfl
    rfl

theorem same_equivalence : Equivalence fun a b : Address => a.same b where
  refl _ := same_iff.mpr rfl
  symm h := same_iff.mpr (same_iff.mp h).symm
  trans hfirst hsecond := same_iff.mpr ((same_iff.mp hfirst).trans (same_iff.mp hsecond))

/-- **Addresses that are the same can stand for each other as keys.**  Sameness is an equivalence
and the digest does not see past it, nor does a hasher, which is given the digest and no other
word.  It holds between an IPv4 address and
the IPv6 addresses that carry it, in whatever zones, and among these; all other IPv6
addresses are only the same as themselves, zone included. -/
theorem same_equivalence_digest :
    Equivalence (fun a b : Address => a.same b) ∧
    (∀ a : Address, a.feed = [a.digest]) ∧
    (∀ a b : Address, a.same b → a.digest = b.digest ∧
      ∃ word, a.feed = [word] ∧ b.feed = [word]) ∧
    (∀ v w : V4, (v4 v).same (.v4 w) ↔ v = w) ∧
    (∀ (v : V4) (a : V6), ((v4 v).same (.v6 a) ↔ Carries a v) ∧
      ((v6 a).same (.v4 v) ↔ Carries a v)) ∧
    (∀ (a b : V6) (v w : V4), Carries a v → Carries b w → ((v6 a).same (.v6 b) ↔ v = w)) ∧
    ∀ a b : V6, (∀ v, ¬ Carries a v) ∨ (∀ v, ¬ Carries b v) →
      ((v6 a).same (.v6 b) ↔ a.octets = b.octets ∧ a.zone = b.zone) := by
  refine ⟨same_equivalence, fun _ => rfl, fun a b h => ?_, fun _ _ => same_v4_iff, fun v a => ?_,
    fun _ _ _ _ => same_v6_iff_of_carries, fun _ _ => same_v6_iff_of_not_carries⟩
  · have hdigest := digest_eq_of_same h
    refine ⟨hdigest, a.digest, rfl, ?_⟩
    rw [hdigest]
    rfl
  · have hcomm : (v6 a).same (.v4 v) ↔ (v4 v).same (.v6 a) :=
      ⟨fun h => same_equivalence.symm h, fun h => same_equivalence.symm h⟩
    exact ⟨same_v4_v6_iff, hcomm.trans same_v4_v6_iff⟩

end InetAddress.Address
