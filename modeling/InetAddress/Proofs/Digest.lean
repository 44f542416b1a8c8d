import InetAddress.V6.Basic
import Mathlib.Logic.Function.Basic

/-!
# Folding loses nothing of the word folded in

A fold puts a lower word onto an upper one by steps of three kinds, and each of them can be taken
back:

```text
exclusive or     by itself
* multiplier     by * inverse, for the multiplier is odd
spread           by itself, for 47 is more than half of 64
```

So the lower word is found again from the upper one and the result (`recover`), and a fold onto a
fixed upper word is a bijection.  Of the upper word, which enters twice, nothing of the kind is
said: what a chain keeps apart is what was folded in last (`chain_concat_eq_iff`).  The digest of an
address is a chain of the two halves of a hash, and so it tells hashes apart that begin alike.
-/

namespace InetAddress

namespace Digest

variable {seed v w : UInt64} {values : List UInt64} {x y : List UInt8}

/-! ## Taking back a step -/

/-- The inverse of the multiplier among 64-bit words. -/
def inverse : UInt64 :=
  0xdc56e6f5090b32d9

theorem multiplier_mul_inverse : multiplier * inverse = 1 := by
  decide

theorem mul_multiplier_inverse (word : UInt64) : word * multiplier * inverse = word := by
  rw [UInt64.mul_assoc, multiplier_mul_inverse, UInt64.mul_one]

theorem mul_inverse_multiplier (word : UInt64) : word * inverse * multiplier = word := by
  rw [UInt64.mul_assoc, UInt64.mul_comm inverse, multiplier_mul_inverse, UInt64.mul_one]

theorem xor_xor_cancel_right (word other : UInt64) : word ^^^ other ^^^ other = word := by
  rw [UInt64.xor_assoc, UInt64.xor_self, UInt64.xor_zero]

theorem shiftRight_twice (word : UInt64) : word >>> 47 >>> 47 = 0 := by
  have hplaces : (47 : UInt64).toNat % 64 = 47 := rfl
  have hsmall : word.toNat < 2 ^ (47 + 47) := Nat.lt_trans word.toNat_lt (by decide)
  rw [← UInt64.toNat_inj, UInt64.toNat_shiftRight, UInt64.toNat_shiftRight, hplaces,
    ← Nat.shiftRight_add, Nat.shiftRight_eq_div_pow, Nat.div_eq_of_lt hsmall]
  rfl

/-- The bits that are mixed in come from the high half, and mixing leaves them there. -/
theorem spread_spread (word : UInt64) : spread (spread word) = word :=
  calc spread (spread word)
    _ = word ^^^ word >>> 47 ^^^ (word ^^^ word >>> 47) >>> 47 := rfl
    _ = word ^^^ word >>> 47 ^^^ word >>> 47 := by
        rw [UInt64.shiftRight_xor, shiftRight_twice, UInt64.xor_zero]
    _ = word := xor_xor_cancel_right word _

/-! ## Taking back a fold -/

/-- The word that gives `word` when it is folded onto `upper`: the steps of a fold taken back one by
one, the last of them first. -/
def recover (upper word : UInt64) : UInt64 :=
  spread (spread (word * inverse) * inverse ^^^ upper) * inverse ^^^ upper

theorem recover_fold (upper lower : UInt64) : recover upper (fold upper lower) = lower := by
  rw [recover, fold, mul_multiplier_inverse, spread_spread, mul_multiplier_inverse,
    UInt64.xor_comm upper, xor_xor_cancel_right, spread_spread, mul_multiplier_inverse,
    xor_xor_cancel_right]

theorem fold_recover (upper word : UInt64) : fold upper (recover upper word) = word := by
  rw [fold, recover, xor_xor_cancel_right, mul_inverse_multiplier, spread_spread,
    UInt64.xor_comm upper, xor_xor_cancel_right, mul_inverse_multiplier, spread_spread,
    mul_inverse_multiplier]

theorem fold_bijective (upper : UInt64) : Function.Bijective (fold upper) :=
  Function.bijective_iff_has_inverse.mpr ⟨recover upper, recover_fold upper, fold_recover upper⟩

/-! ## Chains -/

theorem chain_concat_eq_iff : chain seed (values ++ [v]) = chain seed (values ++ [w]) ↔ v = w := by
  rw [chain_append, chain_append]
  exact (fold_bijective (chain seed values)).injective.eq_iff

/-- Of two hashes that begin alike the digests are equal when the hashes are. -/
theorem seeded_eq_iff (h : (sip x).1 = (sip y).1) :
    seeded seed x = seeded seed y ↔ sip x = sip y := by
  have hchain : ∀ z, seeded seed z = chain seed ([(sip z).1] ++ [(sip z).2]) := fun _ => rfl
  rw [hchain, hchain, h, chain_concat_eq_iff, Prod.ext_iff]
  exact (and_iff_right h).symm

end Digest

/-! ## Addresses -/

theorem V6.digest_of_not_isMapped {a : V6} (h : ¬ a.isMapped) :
    a.digest = Digest.seeded (UInt64.ofNat Family.v6.code) a.octets.toList := by
  rw [digest, mapped?, if_neg h]

namespace Digest

/-- **A fold onto a fixed word is a bijection of words.**  So chains that differ in the last word
alone have different ends, and a chain may be broken anywhere.  Addresses of one family, none of
them mapped, whose hashes begin alike have the same digest just when the hashes are the same. -/
theorem fold_chain_bijective :
    (∀ upper, Function.Bijective (fold upper)) ∧
    (∀ seed values v w, v ≠ w → chain seed (values ++ [v]) ≠ chain seed (values ++ [w])) ∧
    (∀ seed first second, chain seed (first ++ second) = chain (chain seed first) second) ∧
    (∀ a b : V6, ¬ a.isMapped → ¬ b.isMapped →
      (sip a.octets.toList).1 = (sip b.octets.toList).1 →
      (a.digest = b.digest ↔ sip a.octets.toList = sip b.octets.toList)) ∧
    ∀ a b : V4, (sip a.octets.toList).1 = (sip b.octets.toList).1 →
      (a.digest = b.digest ↔ sip a.octets.toList = sip b.octets.toList) := by
  refine ⟨fold_bijective, fun seed values v w hne => ?_, chain_append, fun a b ha hb h => ?_,
    fun a b h => seeded_eq_iff h⟩
  · rw [Ne, chain_concat_eq_iff]
    exact hne
  · rw [V6.digest_of_not_isMapped ha, V6.digest_of_not_isMapped hb]
    exact seeded_eq_iff h

/-- Hashes of two addresses that begin alike and end differently.  The digests differ, as do chains
that end in the words 2 and 3. -/
theorem digests_of_hashes_that_begin_alike :
    let a := V6.ofOctets #v[0x20, 0x01, 0x0d, 0xb8, 0, 0, 0, 0,
      0x82, 0xe4, 0xec, 0x7c, 0xff, 0xc0, 0xad, 0x52]
    let b := V6.ofOctets #v[0x20, 0x01, 0x0d, 0xb8, 0, 0, 0, 0,
      0x57, 0x34, 0xed, 0x9a, 0x9e, 0xa0, 0xcf, 0x91]
    let v := V4.ofUInt32 0x7f000001
    ¬ a.isMapped ∧ ¬ b.isMapped ∧ (sip a.octets.toList).1 = (sip b.octets.toList).1 ∧
      a.digest ≠ b.digest ∧
      (sip v.octets.toList).1 = (sip V4.loopback.octets.toList).1 ∧
      v.digest = V4.loopback.digest ∧
      (2 : UInt64) ≠ 3 ∧ chain 10 ([1] ++ [2]) ≠ chain 10 ([1] ++ [3]) := by
  intro a b v
  obtain ⟨-, hlast, -, hsix, hfour⟩ := fold_chain_bijective
  have ha : ¬ a.isMapped := by decide
  have hb : ¬ b.isMapped := by decide
  have hbegin : (sip a.octets.toList).1 = (sip b.octets.toList).1 := by decide +kernel
  have hend : sip a.octets.toList ≠ sip b.octets.toList := by decide +kernel
  have hv : v = V4.loopback := by decide +kernel
  have hwords : (2 : UInt64) ≠ 3 := by decide
  refine ⟨ha, hb, hbegin, fun hdigest => hend ((hsix a b ha hb hbegin).mp hdigest), ?_, ?_, hwords,
    hlast 10 [1] 2 3 hwords⟩
  · rw [hv]
  · exact (hfour v V4.loopback (by rw [hv])).mpr (by rw [hv])

end Digest

end InetAddress
