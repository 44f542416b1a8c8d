import InetAddress.V6.Transition
import InetAddress.Proofs.Network.Mapped
import InetAddress.Proofs.Order

/-!
# IPv4 addresses embed into the IPv6 addresses

An IPv4 address goes to its mapped form and comes back from it.  What comes back at all is
marked by its first 96 bits (`isMapped_iff_bit`), and loses nothing but its zone when it
goes there again (`ofV4_of_toV4`).

Two things have to agree on both sides.  The classes do, because the tests that do not look
at the carried address turn every mapped address down: `::1` is not mapped
(`octets_ofV4_ne_loopback`) and `fc00::/7` begins with other octets.  The order does, because
all mapped addresses begin alike (`compare_ofV4`).
-/

namespace InetAddress

namespace V6

variable {a : V6} {v w : V4} {e : Error}

/-! ## There and back -/

theorem toV4_eq_ok_iff : a.toV4 = .ok v ↔ a.octets = (ofV4 v).octets := by
  rw [← mapped?_eq_some_iff, toV4]
  cases a.mapped? <;> simp

theorem ofV4_of_toV4 (h : a.toV4 = .ok v) : ofV4 v = a.withZone 0 :=
  congrArg (mk · 0) (toV4_eq_ok_iff.mp h).symm

theorem exists_toV4_iff : (∃ v, a.toV4 = .ok v) ↔ a.isMapped := by
  rw [← isSome_mapped?, Option.isSome_iff_exists]
  simp only [toV4_eq_ok_iff, mapped?_eq_some_iff]

theorem toV4_eq_error_iff : a.toV4 = .error e ↔ ¬ a.isMapped ∧ e = .notMapped a := by
  rw [← isSome_mapped?, toV4]
  cases a.mapped? with
  | none => simp [eq_comm]
  | some v => simp

/-- A mapped address begins with 80 clear bits and 16 set ones. -/
theorem isMapped_iff_bit : a.isMapped ↔ (∀ i < 80, a.octets.bit i = false) ∧
    ∀ i, 80 ≤ i → i < 96 → a.octets.bit i = true := by
  have hmarks : ∀ i < 96, (ofV4 .unspecified).octets.bit i = decide (80 ≤ i) := by decide
  rw [isMapped_iff_mask, Octets.mask_eq_mask_iff]
  constructor
  · intro h
    refine ⟨fun i hi => ?_, fun i hge hlt => ?_⟩
    · rw [h i (by omega), hmarks i (by omega), decide_eq_false (by omega)]
    · rw [h i hlt, hmarks i hlt, decide_eq_true hge]
  · rintro ⟨hclear, hset⟩ i hi
    rw [hmarks i hi]
    by_cases hge : 80 ≤ i
    · rw [hset i hge hi, decide_eq_true hge]
    · rw [hclear i (by omega), decide_eq_false hge]

/-! ## Classes -/

theorem octets_ofV4_ne_loopback (v : V4) : (ofV4 v).octets ≠ loopback.octets := by
  intro h
  have hmapped : loopback.isMapped := by
    rw [← isSome_mapped?, mapped?_eq_some_iff.mpr h.symm, Option.isSome_some]
  exact absurd hmapped (by decide)

theorem octet_zero_ofV4 (v : V4) : (ofV4 v).octets.octet 0 = 0 :=
  Octets.octet_append mappedHead v.octets 0

theorem isLoopback_ofV4 (v : V4) : (ofV4 v).isLoopback = v.isLoopback := by
  have hother : ((ofV4 v).octets == loopback.octets) = false :=
    beq_false_of_ne (octets_ofV4_ne_loopback v)
  rw [isLoopback, mapped?_ofV4, Option.any_some, hother, Bool.or_false]

theorem isPrivate_ofV4 (v : V4) : (ofV4 v).isPrivate = v.isPrivate := by
  have hlocal : (ofV4 v).inBlock #v[0xfc, 0x00] 7 = false := by
    rw [inBlock_eq_inside (by decide) (by decide +kernel), Bool.eq_false_iff, Ne, inside_iff_mask,
      Octets.mask_eq_mask_iff_first (by decide : 7 ≤ 8), octet_zero_ofV4]
    decide
  have hloopback : v.isLoopback → v.isPrivate := fun h => V4.isPrivate_iff.mpr (.inl h)
  rw [isPrivate, mapped?_ofV4, Option.any_some, isLoopback_ofV4, hlocal, Bool.or_false]
  exact Bool.or_eq_left_iff_imp.mpr hloopback

/-! ## Order -/

theorem compare_ofV4 (v w : V4) : compare (ofV4 v) (ofV4 w) = compare v w := by
  calc compare (ofV4 v) (ofV4 w)
      _ = (compare (ofV4 v).octets (ofV4 w).octets).then (compare (0 : UInt16) 0) := rfl
      _ = compare (mappedHead ++ v.octets) (mappedHead ++ w.octets) := by
          rw [Std.compare_self, Ordering.then_eq]
          rfl
      _ = compare v w := Octets.compare_append_left mappedHead v.octets w.octets

/-- **IPv4 addresses are the mapped IPv6 addresses**, there and back.  What comes back is marked by
its first 96 bits, and everything else is refused for not being mapped.  On the way there the
classes stay the same, and the order does: it is that of the numbers as words. -/
theorem ofV4_toV4_compare :
    (∀ v : V4, (ofV4 v).toV4 = .ok v) ∧
    (∀ a : V6,
      ((∃ v, a.toV4 = .ok v) ↔ (∀ i < 80, a.octets.bit i = false) ∧
        ∀ i, 80 ≤ i → i < 96 → a.octets.bit i = true) ∧
      (∀ v, a.toV4 = .ok v → ofV4 v = a.withZone 0) ∧
      ∀ e, a.toV4 = .error e → e = .notMapped a ∧ e.kind = .typeMismatch) ∧
    (∀ v : V4, (ofV4 v).isLoopback = v.isLoopback ∧ (ofV4 v).isPrivate = v.isPrivate) ∧
    ∀ v w : V4, compare (ofV4 v) (ofV4 w) = compare v w ∧
      (compare v w = .lt ↔ compare (ofV4 v) (ofV4 w) = .lt) ∧
      (compare v w = .lt ↔ v.toUInt32 < w.toUInt32) := by
  refine ⟨fun v => toV4_eq_ok_iff.mpr rfl, fun a => ⟨?_, fun v => ofV4_of_toV4, fun e he => ?_⟩,
    fun v => ⟨isLoopback_ofV4 v, isPrivate_ofV4 v⟩, fun v w => ⟨compare_ofV4 v w, ?_, ?_⟩⟩
  · rw [exists_toV4_iff, isMapped_iff_bit]
  · obtain ⟨-, rfl⟩ := toV4_eq_error_iff.mp he
    exact ⟨rfl, rfl⟩
  · rw [compare_ofV4]
  · exact V4.compare_eq_lt_iff

/-- One address that comes back from its mapped form, in whatever zone, and one that does not. -/
theorem embedding_of_private_address :
    let v := V4.ofParts 172 31 0 9
    let a := (ofV4 v).withZone 5
    a.toV4 = .ok v ∧ ofV4 v = a.withZone 0 ∧ (ofV4 v).isPrivate ∧
      loopback.toV4 = .error (.notMapped loopback) ∧
      (Error.notMapped loopback).kind = .typeMismatch ∧
      compare (ofV4 v) (ofV4 (V4.ofParts 172 32 0 0)) = .lt := by
  intro v a
  obtain ⟨hback, hcarried, hclasses, horder⟩ := ofV4_toV4_compare
  have ha : a.toV4 = .ok v := hback v
  have hnone : loopback.toV4 = .error (.notMapped loopback) := by decide +kernel
  have hless : compare v (V4.ofParts 172 32 0 0) = .lt := by decide +kernel
  refine ⟨ha, (hcarried a).2.1 v ha, ?_, hnone, ((hcarried loopback).2.2 _ hnone).2,
    (horder v _).2.1.mp hless⟩
  rw [(hclasses v).2]
  decide +kernel

end V6

end InetAddress
